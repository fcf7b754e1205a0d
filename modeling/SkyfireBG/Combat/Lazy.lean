import SkyfireBG.Combat.Ranked
import SkyfireBG.Lib.Run

/-!
# SkyfireBG.Combat.Lazy

Selections from the list that is sorted only when it is marked, against selections from the list
sorted at once.

* `Ranked.step` — the order is kept by each step that keeps it.
* `scan_better`, `scan_first` — the victim that is found.
* `getHostilTarget_sorted` — the two selections agree.
-/

namespace SkyfireBG

theorem filter_insertionSort {α : Type} {r : α → α → Prop} [DecidableRel r] {p : α → Bool}
    {l : List α} (h : (l.filter p).Pairwise r) : (l.insertionSort r).filter p = l.filter p := by
  have hsub : (l.filter p).Sublist ((l.insertionSort r).filter p) := by
    have hsub := (List.sublist_insertionSort h List.filter_sublist).filter p
    rwa [List.filter_filter, List.filter_congr (fun x _ => Bool.and_self (p x))] at hsub
  exact (hsub.eq_of_length_le (((List.perm_insertionSort r l).filter p).length_eq.le)).symm

namespace ThreatManager

section Lazy

variable {U K : Type} [ThreatNumber K]
variable {w : ThreatWorld U K} {m m' : ThreatManager U K} {b : Bool} {v r : Nat}
  {v' : Option Nat} {list : List Nat}

theorem scan_congr (h : m'.refs = m.refs) : m'.scan w b v' list = m.scan w b v' list := by
  have ht : m'.threat = m.threat := by
    funext r
    simp [threat, h]
  induction list generalizing v' with
  | nil => simp [scan]
  | cons x rest ih =>
    rw [scan.eq_def, scan.eq_def w m]
    simp only [isSecondChoice, canAttack, target, isAbove, isBetter, ht, h, ih]
    cases rest <;> cases v' <;> rfl

theorem selectNextVictim_congr (h : m'.refs = m.refs) (hv : m'.victim = m.victim)
    (hl : m'.onlineList = m.onlineList) : m'.selectNextVictim w = m.selectNextVictim w := by
  simp only [selectNextVictim, hv, hl, scan_congr h]

theorem update_scan : m.update.scan w b v' list = m.scan w b v' list := scan_congr rfl

theorem update_selectNextVictim (hl : m.update.onlineList = m.onlineList) :
    m.update.selectNextVictim w = m.selectNextVictim w := selectNextVictim_congr rfl rfl hl

theorem scan_better (hv : b ∨ ¬ m.isSecondChoice w v) :
    (∀ r, m.scan w b (some v) list = .found r → r = v ∨ m.isBetter w r v) ∧
      ∀ v', ¬ m.isSecondChoice w v → m.scan w b (some v) list = .restart v' → v' = some v := by
  induction list with
  | nil => simp [scan]
  | cons x rest ih =>
    obtain ⟨-, -, -, he⟩ | ⟨hb, hs, -, he⟩ | ⟨-, -, he⟩ | ⟨-, -, hnone, -⟩ | ⟨-, -, c, hc, hcase⟩ :=
      scan_cases w m b (some v) x rest
    · simp [he]
    · have hne : v ≠ x := by
        rintro rfl
        exact hv.elim (by simp [hb]) fun hv => hv hs
      rw [he, if_neg (by simpa using hne)]
      exact ih
    · exact he ▸ ih
    · cases hnone
    · cases hc
      obtain ⟨-, he⟩ | ⟨-, -, hbetter, he⟩ | ⟨-, -, -, he⟩ := hcase
      · simp [he]
      · simp [he, hbetter]
      · exact he ▸ ih

def isFirstChoice (w : ThreatWorld U K) (m : ThreatManager U K) (r : Nat) : Bool :=
  m.canAttack w r && !m.isSecondChoice w r

theorem scan_first (h : ∃ r ∈ list, m.isFirstChoice w r) :
    ∃ r, list.find? (m.isFirstChoice w) = some r ∧ m.scan w false none list = .found r := by
  induction list with
  | nil => simp at h
  | cons x rest ih =>
    have hskip : ¬ m.isFirstChoice w x → m.scan w false none (x :: rest) =
        m.scan w false none rest → ∃ r, (x :: rest).find? (m.isFirstChoice w) = some r ∧
        m.scan w false none (x :: rest) = .found r := by
      intro hx he
      rw [List.find?_cons_of_neg hx, he]
      refine ih ?_
      obtain ⟨r, hr, hfirst⟩ := h
      refine ⟨r, (List.mem_cons.mp hr).resolve_left ?_, hfirst⟩
      rintro rfl
      exact hx hfirst
    obtain ⟨-, hs, rfl, -⟩ | ⟨-, hs, -, he⟩ | ⟨-, ha, he⟩ | ⟨hs, ha, -, he⟩ | ⟨-, -, c, hc, -⟩ :=
      scan_cases w m false none x rest
    · obtain ⟨r, hr, hfirst⟩ := h
      rw [List.mem_singleton.mp hr] at hfirst
      simp [isFirstChoice, hs] at hfirst
    · rw [ite_self] at he
      exact hskip (by simp [isFirstChoice, hs]) he
    · exact hskip (by simp [isFirstChoice, ha]) he
    · have hs' : m.isSecondChoice w x = false := by simpa using hs
      exact ⟨x, List.find?_cons_of_pos (by simp [isFirstChoice, ha, hs']), he⟩
    · cases hc

theorem setDirty_update_onlineList : m.setDirty.update.onlineList =
    m.onlineList.insertionSort fun a b => m.threat b ≤ m.threat a := by
  by_cases hs : 1 < m.onlineList.length
  · exact if_pos ⟨rfl, hs⟩
  · refine (if_neg fun h => hs h.2).trans ?_
    change m.onlineList = _
    match m.onlineList, hs with
    | [], _ => rfl
    | [r], _ => rfl
    | _ :: _ :: _, hs => exact absurd (by simp) hs

/-- Before a selection that keeps the order, the list is sorted when the loop starts, or the victim
is a target that ends the loop. -/
theorem select_cases [DecidableEq U] (h : m.Ranked) (hk : m.KeepsOrder w .select) :
    m.dirty ∨ m.onlineList.Pairwise m.notBelow ∨
      (m.dirty = false ∧ ∃ v, m.victim = some v ∧ m.canAttack w v ∧ ¬ m.isSecondChoice w v ∧
        m.onlineList.Pairwise fun a b => m.isAbove b v → m.notBelow a b) := by
  by_cases hd : m.dirty = true
  · exact .inl hd
  have hold := h.resolve_left hd
  rcases hk.resolve_left hd with hsorted | hv
  · exact .inr (.inl hsorted)
  cases hm : m.victim with
  | none =>
    refine .inr (.inl (hold.imp fun hab => hab ?_))
    simp [competes, hm]
  | some v =>
    obtain ⟨hattack, hfirst⟩ := hv v hm
    refine .inr (.inr ⟨by simpa using hd, v, rfl, hattack, hfirst, hold.imp fun hab hc => hab ?_⟩)
    simpa [competes, hm] using hc

theorem selectNextVictim_victim (hv : m.victim = some v) (hmem : v ∈ m.onlineList)
    (hattack : m.canAttack w v) (hfirst : ¬ m.isSecondChoice w v)
    (hlist : m.onlineList.Pairwise fun a b => m.isAbove b v → m.notBelow a b) :
    m.selectNextVictim w =
      some (((m.onlineList.filter (m.isAbove · v)).find? (m.isChosen w v)).getD v) := by
  rw [selectNextVictim, hv, scan_victim hmem hattack hfirst hlist]

theorem getHostilTarget_sorted [DecidableEq U] (h : m.Ranked) (hp : m.Partitioned)
    (hk : m.KeepsOrder w .select) :
    (m.getHostilTarget w).victim = (m.setDirty.getHostilTarget w).victim := by
  change m.update.selectNextVictim w = m.setDirty.update.selectNextVictim w
  rcases select_cases h hk with hd | hsorted | ⟨hd, v, hv, hattack, hfirst, hlist⟩
  · have hsame : m.setDirty = m := by
      unfold setDirty
      rw [← hd]
    rw [hsame]
  · refine selectNextVictim_congr rfl rfl ?_
    rw [setDirty_update_onlineList]
    have hsort : m.onlineList.insertionSort (fun a b => m.threat b ≤ m.threat a) = m.onlineList :=
      List.Pairwise.insertionSort_eq hsorted
    simp [update, hsort]
  · have hmem := hp.victim v hv
    have hkept : m.update.selectNextVictim w = m.selectNextVictim w :=
      update_selectNextVictim (by simp [update, hd])
    have hsorted : m.setDirty.update.onlineList.Pairwise m.notBelow :=
      Ranked.update_pairwise (m := m.setDirty) (.inl rfl)
    have hall : m.setDirty.update.onlineList.Pairwise fun a b =>
        m.setDirty.update.isAbove b v → m.setDirty.update.notBelow a b := by
      refine hsorted.imp ?_
      intro a b hab _
      exact hab
    have hmem' : v ∈ m.setDirty.update.onlineList := by
      rw [setDirty_update_onlineList]
      exact (List.perm_insertionSort _ _).mem_iff.mpr hmem
    rw [hkept, selectNextVictim_victim hv hmem hattack hfirst hlist,
      selectNextVictim_victim (m := m.setDirty.update) hv hmem' hattack hfirst hall,
      setDirty_update_onlineList]
    have habove : (m.onlineList.filter (m.isAbove · v)).Pairwise fun a b =>
        m.threat b ≤ m.threat a := by
      refine (List.pairwise_filter.mpr (hlist.imp ?_))
      intro a b hab _ hb
      exact hab hb
    have hfilter := filter_insertionSort habove
    exact congrArg (fun l => some ((l.find? (m.isChosen w v)).getD v)) hfilter.symm

/-! ## Runs -/

theorem pairwise_setVictim (hx : ∀ v, m.victim = some v → m.notBelow r v)
    (h : m.onlineList.Pairwise fun a b => m.competes b → m.notBelow a b) :
    m.onlineList.Pairwise fun a b => m.isAbove b r → m.notBelow a b := by
  refine h.imp fun hab hc => hab ?_
  unfold competes
  cases hm : m.victim with
  | none => rfl
  | some v =>
    have hle := hx v hm
    simp only [notBelow] at hle
    simp only [Option.elim_some, isAbove, decide_eq_true_eq] at hc ⊢
    linarith

theorem chosen_notBelow
    (hmem : v ∈ list) (hattack : m.canAttack w v) (hfirst : ¬ m.isSecondChoice w v)
    (hlist : list.Pairwise fun a b => m.isAbove b v → m.notBelow a b)
    (h : (list.filter (m.isAbove · v)).find? (m.isChosen w v) = some r) : m.notBelow r v := by
  have hr : m.isAbove r v := (List.mem_filter.mp (List.mem_of_find?_eq_some h)).2
  by_cases hneg : m.isAbove v v
  · -- the victim has negative threat, and the loop stops at it
    obtain ⟨-, as, bs, hsplit, has⟩ := List.find?_eq_some_iff_append.mp h
    have hv : v ∈ list.filter (m.isAbove · v) := List.mem_filter.mpr ⟨hmem, hneg⟩
    have hchosen : m.isChosen w v v := by
      have hs : m.isSecondChoice w v = false := by simpa using hfirst
      simp [isChosen, hattack, hs]
    have hpair : (as ++ r :: bs).Pairwise fun a b => m.isAbove b v → m.notBelow a b :=
      hsplit ▸ hlist.sublist List.filter_sublist
    rw [hsplit] at hv
    rcases List.mem_append.mp hv with hv | hv
    · have hnot := has v hv
      rw [hchosen] at hnot
      cases hnot
    · rcases List.mem_cons.mp hv with rfl | hv
      · exact le_refl _
      · exact (List.pairwise_cons.mp (List.pairwise_append.mp hpair).2.1).1 v hv hneg
  · simp only [isAbove, decide_eq_true_eq] at hr hneg
    unfold notBelow
    linarith

namespace Ranked

theorem getHostilTarget [DecidableEq U] (h : m.Ranked) (hp : m.Partitioned)
    (hk : m.KeepsOrder w .select) : (m.getHostilTarget w).Ranked := by
  have hsorted : m.dirty ∨ m.onlineList.Pairwise m.notBelow → (m.getHostilTarget w).Ranked := by
    intro hs
    refine .inr ((update_pairwise hs).imp ?_)
    intro a b hab _
    exact hab
  rcases select_cases h hk with hd | hs | ⟨hd, v, hv, hattack, hfirst, hlist⟩
  · exact hsorted (.inl hd)
  · exact hsorted (.inr hs)
  have hmem := hp.victim v hv
  have hkept : m.update.onlineList = m.onlineList := by simp [ThreatManager.update, hd]
  have hsel : (m.getHostilTarget w).victim =
      some (((m.onlineList.filter (m.isAbove · v)).find? (m.isChosen w v)).getD v) :=
    (update_selectNextVictim hkept).trans
      (selectNextVictim_victim hv hmem hattack hfirst hlist)
  generalize hx : ((m.onlineList.filter (m.isAbove · v)).find? (m.isChosen w v)).getD v = x at hsel
  have hnot : m.notBelow x v := by
    cases hfind : (m.onlineList.filter (m.isAbove · v)).find? (m.isChosen w v) with
    | none =>
      rw [hfind] at hx
      exact hx ▸ le_refl _
    | some y =>
      rw [hfind] at hx
      exact hx ▸ chosen_notBelow hmem hattack hfirst hlist hfind
  have hpair : m.onlineList.Pairwise fun a b => m.isAbove b x → m.notBelow a b := by
    refine pairwise_setVictim (fun v' hv' => ?_) (h.resolve_left (by simp [hd]))
    rw [hv] at hv'
    exact Option.some.inj hv' ▸ hnot
  refine .inr ?_
  change m.update.onlineList.Pairwise fun a b =>
    (m.getHostilTarget w).competes b → m.notBelow a b
  rw [hkept]
  refine hpair.imp fun hab hc => hab ?_
  rw [competes, hsel] at hc
  exact hc

theorem forceVictim [DecidableEq U] {u : U} (h : m.Ranked) (hk : m.KeepsOrder w (.force u)) :
    (m.forceVictim u).Ranked := by
  unfold ThreatManager.forceVictim
  split
  · rename_i r hr
    by_cases hd : m.dirty = true
    · exact .of_dirty hd
    have hpair := pairwise_setVictim (m := m) (fun v hv => hk.resolve_left hd r v hr hv)
      (h.resolve_left hd)
    exact .inr hpair
  · exact h

theorem removeReference (h : m.Ranked) (hp : m.Partitioned) : (m.removeReference r).Ranked := by
  cases href : m.refs r with
  | none => simpa [ThreatManager.removeReference, href] using h
  | some ref =>
    have hoff := h.setOnlineOfflineState (r := r) (b := false) hp (.inr fun _ hb => by cases hb)
    have hp' := hp.removeReference (r := r)
    have hmem : r ∉ (m.removeReference r).onlineList := by
      intro hr
      obtain ⟨ref', href', -⟩ := (hp'.online r).mp hr
      rw [hp.removeReference_eq href] at href'
      simp at href'
    rw [hp.removeReference_eq href] at hp' hmem ⊢
    refine hoff.mono hp' id rfl (List.Sublist.refl _) fun r' hr' => ?_
    refine threat_of_refs (Function.update_of_ne ?_ _ _)
    rintro rfl
    exact hmem hr'

theorem step [DecidableEq U] (h : m.Ranked) (hp : m.Partitioned) {s : ThreatStep U K}
    (hk : m.KeepsOrder w s) : (m.step w s).Ranked := by
  cases s with
  | create u threat =>
    simp only [ThreatManager.step]
    split_ifs
    · exact h.create hp hk
    · exact h
  | change r threat =>
    cases href : m.refs r with
    | none => simpa [ThreatManager.step, ThreatManager.changeThreat, href] using h
    | some ref =>
      simp only [KeepsOrder] at hk
      cases hon : ref.online with
      | true =>
        have hflag : m.isOnline r = true := by simp [isOnline, href, hon]
        rw [if_pos hflag] at hk
        exact h.changeThreat_online href hon hk
      | false =>
        have hflag : m.isOnline r ≠ true := by simp [isOnline, href, hon]
        rw [if_neg hflag] at hk
        exact h.changeThreat_offline hp href hon hk
  | online r b => exact h.setOnlineOfflineState hp hk
  | status r => exact h.updateOnlineStatus hp hk
  | temp r threat => exact h.modify fun _ => rfl
  | remove r => exact h.removeReference hp
  | clear => exact .inr List.Pairwise.nil
  | select => exact h.getHostilTarget hp hk
  | force u => exact h.forceVictim hk

end Ranked

theorem run_ranked [DecidableEq U] {owner : U}
    {steps : List (ThreatWorld U K × ThreatStep U K)}
    (hrun : Run (fun (m : ThreatManager U K) s => m.step s.1 s.2)
      (fun m s => m.KeepsOrder s.1 s.2) { owner := owner } steps m) :
    m.Partitioned ∧ m.Ranked := by
  refine hrun.invariant (I := fun m => m.Partitioned ∧ m.Ranked) ?_
    ⟨.init owner, .inr List.Pairwise.nil⟩
  intro m s hm hk
  exact ⟨hm.1.step s.2, hm.2.step hm.1 hk⟩

theorem getHostilTarget_highest [DecidableEq U] (h : m.Ranked) (hv : m.victim = none)
    (hfirst : ∃ r ∈ m.onlineList, m.isFirstChoice w r) :
    ∃ r ∈ m.onlineList, (m.getHostilTarget w).victim = some r ∧ m.isFirstChoice w r ∧
      ∀ r' ∈ m.onlineList, m.isFirstChoice w r' → m.threat r' ≤ m.threat r := by
  have hperm : List.Perm m.update.onlineList m.onlineList := by
    simp only [update]
    split_ifs
    · exact List.perm_insertionSort _ _
    · exact List.Perm.refl _
  have hsorted : m.update.onlineList.Pairwise m.notBelow := by
    refine Ranked.update_pairwise (h.imp id fun hold => hold.imp fun hab => hab ?_)
    simp [competes, hv]
  obtain ⟨r₀, hr₀, hf₀⟩ := hfirst
  have hsome : ∃ r ∈ m.update.onlineList, m.isFirstChoice w r := ⟨r₀, hperm.mem_iff.mpr hr₀, hf₀⟩
  obtain ⟨r, hfind, hscan⟩ := scan_first hsome
  obtain ⟨hr, as, bs, hsplit, has⟩ := List.find?_eq_some_iff_append.mp hfind
  refine ⟨r, hperm.mem_iff.mp (List.mem_of_find?_eq_some hfind), ?_, hr, ?_⟩
  · have hv' : m.update.victim = none := hv
    change m.update.selectNextVictim w = some r
    rw [selectNextVictim, hv', update_scan, hscan]
  · intro r' hr' hf'
    have hmem := hperm.mem_iff.mpr hr'
    rw [hsplit] at hmem hsorted
    rcases List.mem_append.mp hmem with hmem | hmem
    · have hnot := has r' hmem
      rw [hf'] at hnot
      cases hnot
    · rcases List.mem_cons.mp hmem with rfl | hmem
      · exact le_refl _
      · exact (List.pairwise_cons.mp (List.pairwise_append.mp hsorted).2.1).1 r' hmem

theorem getHostilTarget_better (hv : m.victim = some v) (hfirst : ¬ m.isSecondChoice w v)
    (h : (m.getHostilTarget w).victim = some r) : r = v ∨ m.isBetter w r v := by
  change m.update.selectNextVictim w = some r at h
  have hv' : m.update.victim = some v := hv
  rw [selectNextVictim, hv', update_scan] at h
  split at h
  · rename_i r' hscan
    cases h
    exact (scan_better (.inr hfirst)).1 _ hscan
  · cases h
  · rename_i v' hscan
    rw [(scan_better (.inr hfirst)).2 _ hfirst hscan, update_scan] at h
    split at h
    · rename_i r' hscan'
      cases h
      exact (scan_better (.inl rfl)).1 _ hscan'
    · cases h

/-- In every run whose steps keep the order, a selection returns what it would return from the list
sorted by threat just before it; with no current victim that is the first choice of highest threat,
and a victim that is no second choice is only replaced by the 130% rule, or the 110% rule in melee
range. -/
theorem lazyThreatOrder [DecidableEq U] {owner : U}
    {steps : List (ThreatWorld U K × ThreatStep U K)}
    (hrun : Run (fun (m : ThreatManager U K) s => m.step s.1 s.2)
      (fun m s => m.KeepsOrder s.1 s.2) { owner := owner } steps m)
    (hsel : m.KeepsOrder w .select) :
    (m.getHostilTarget w).victim = (m.setDirty.getHostilTarget w).victim ∧
      (m.victim = none → (∃ r ∈ m.onlineList, m.isFirstChoice w r) →
        ∃ r ∈ m.onlineList, (m.getHostilTarget w).victim = some r ∧ m.isFirstChoice w r ∧
          ∀ r' ∈ m.onlineList, m.isFirstChoice w r' → m.threat r' ≤ m.threat r) ∧
      (∀ v r, m.victim = some v → ¬ m.isSecondChoice w v →
        (m.getHostilTarget w).victim = some r → r = v ∨ 13 / 10 * m.threat v < m.threat r ∨
          (11 / 10 * m.threat v < m.threat r ∧ m.target w.isWithinMeleeRange r)) := by
  obtain ⟨hp, hr⟩ := run_ranked hrun
  refine ⟨getHostilTarget_sorted hr hp hsel, fun hv hfirst => getHostilTarget_highest hr hv hfirst,
    fun v r hv hfirst h => ?_⟩
  simpa [isBetter, isAbove] using getHostilTarget_better hv hfirst h

end Lazy

def meleeWorld : ThreatWorld Nat ℚ :=
  { petWorld with isWithinMeleeRange := fun u => decide (u = 5) }

def auraWorld : ThreatWorld Nat ℚ :=
  { petWorld with hasBreakableAura := fun u => decide (u = 3) }

theorem lazyThreatOrder_dirty :
    ∃ (m : ThreatManager Nat ℚ) (steps : List (ThreatWorld Nat ℚ × ThreatStep Nat ℚ)),
      Run (fun (m : ThreatManager Nat ℚ) s => m.step s.1 s.2) (fun m s => m.KeepsOrder s.1 s.2)
        { owner := 0 } steps m ∧
      (m.getHostilTarget meleeWorld).victim = (m.setDirty.getHostilTarget meleeWorld).victim ∧
      (m.getHostilTarget meleeWorld).victim = some 1 := by
  have hrun : Run (fun (m : ThreatManager Nat ℚ) s => m.step s.1 s.2)
      (fun m s => m.KeepsOrder s.1 s.2) { owner := 0 }
      [(petWorld, .create 3 100), (petWorld, .select), (petWorld, .create 5 120),
        (petWorld, .change 0 (-5))] _ :=
    .cons (.inr (.inl (by norm_num))) (.cons (.inl (by decide +kernel))
      (.cons (.inr (.inl (by norm_num))) (.cons (.inl (by decide +kernel)) .nil)))
  have hsel := (lazyThreatOrder (w := meleeWorld) hrun (.inl (by decide +kernel))).1
  exact ⟨_, _, hrun, hsel, by decide +kernel⟩

/-- A victim with an aura that damage breaks is replaced by a unit of half its threat. -/
theorem lazyThreatOrder_secondChoice :
    ∃ m, ThreatCalls { owner := 0 }
        [(petWorld, .addThreat 3 100 0 none), (petWorld, .addThreat 4 50 0 none),
          (petWorld, .getHostilTarget)] m ∧
      m.victim = some 0 ∧ (m.getHostilTarget auraWorld).victim = some 1 ∧
      m.threat 0 = 100 ∧ m.threat 1 = 50 := by
  have hend : (ThreatManager.execAll 1 { owner := 0 } [(petWorld, .addThreat 3 100 0 none),
        (petWorld, .addThreat 4 50 0 none), (petWorld, .getHostilTarget)]).map (fun m =>
      (m.victim, (m.getHostilTarget auraWorld).victim, m.threat 0, m.threat 1)) =
      some (some 0, some 1, 100, 50) := by
    decide +kernel
  obtain ⟨m, hm, hv⟩ := Option.map_eq_some_iff.mp hend
  simp only [Prod.mk.injEq] at hv
  exact ⟨m, .of_execAll hm, hv⟩

end ThreatManager

end SkyfireBG
