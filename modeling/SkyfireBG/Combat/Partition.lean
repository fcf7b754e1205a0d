import SkyfireBG.Combat.Call

/-!
# SkyfireBG.Combat.Partition

The two containers of the threat manager share out the references.

* `Partitioned` — the invariant of the manager.
* `Partitioned.step` — every step keeps it.
-/

namespace SkyfireBG

section Partition

variable {U K : Type} [ThreatNumber K]

structure ThreatManager.Partitioned (m : ThreatManager U K) : Prop where
  nodup : (m.onlineList ++ m.offlineList).Nodup
  online : ∀ r, r ∈ m.onlineList ↔ ∃ ref, m.refs r = some ref ∧ ref.online = true
  offline : ∀ r, r ∈ m.offlineList ↔ ∃ ref, m.refs r = some ref ∧ ref.online = false
  valid : ∀ r ref, m.refs r = some ref → ref.valid = true
  single : ∀ r r' ref ref', m.refs r = some ref → m.refs r' = some ref' → ref.unit = ref'.unit →
    r = r'
  victim : ∀ r, m.victim = some r → r ∈ m.onlineList
  fresh : ∀ r ref, m.refs r = some ref → r < m.nextRef

namespace ThreatManager

variable {w : ThreatWorld U K} {m m' : ThreatManager U K} {r r' : Nat} {u : U}
  {ref : HostileReference U K}

omit [ThreatNumber K] in
@[simp] theorem modify_refs_self (f : HostileReference U K → HostileReference U K) :
    (m.modify r f).refs r = (m.refs r).map f := by
  simp [modify]

omit [ThreatNumber K] in
theorem modify_refs_of_ne (f : HostileReference U K → HostileReference U K) (h : r' ≠ r) :
    (m.modify r f).refs r' = m.refs r' := by
  simp [modify, h]

/-- The accessible flag is all that `setAccessibleState` changes. -/
theorem setAccessibleState_eq {b : Bool} :
    m.setAccessibleState r b = m.modify r ({ · with accessible := b }) := by
  unfold setAccessibleState
  cases h : m.refs r with
  | none =>
    have hsame : Function.update m.refs r none = m.refs := by
      rw [← h, Function.update_eq_self]
    simp [modify, h, hsame]
  | some ref =>
    dsimp only
    split_ifs with hb
    · have hsame : Function.update m.refs r (some ref) = m.refs := by
        rw [← h, Function.update_eq_self]
      simp [modify, h, ← hb, hsame]
    · rfl

def moved (m : ThreatManager U K) (r : Nat) (ref : HostileReference U K) (b : Bool) :
    ThreatManager U K :=
  { m with
    refs := Function.update m.refs r
      (some { ref with online := b, accessible := b && ref.accessible })
    onlineList := if b then m.onlineList ++ [r] else m.onlineList.filter (· ≠ r)
    offlineList := if b then m.offlineList.filter (· ≠ r) else m.offlineList ++ [r]
    dirty := m.dirty || (if b then m.victim.elim false (m.isAbove r) else m.victim = some r)
    victim := if b = false ∧ m.victim = some r then none else m.victim }

theorem threat_congr (h : (m'.refs r).map (·.threat) = (m.refs r).map (·.threat)) :
    m'.threat r = m.threat r := by
  unfold threat
  cases h₁ : m.refs r <;> cases h₂ : m'.refs r <;> simp_all

theorem setOnlineOfflineState_eq {b : Bool} (href : m.refs r = some ref) (hb : ref.online ≠ b) :
    m.setOnlineOfflineState r b = m.moved r ref b := by
  unfold setOnlineOfflineState
  rw [href]
  dsimp only
  rw [if_neg hb]
  cases b with
  | false =>
    rw [if_neg (by simp), setAccessibleState_eq]
    by_cases hv : m.victim = some r
    · simp [processThreatEvent, modify, isOnline, setDirty, moved, hv, href]
    · simp [processThreatEvent, modify, isOnline, moved, hv, href]
  | true =>
    have hthreat : ∀ r', (m.modify r ({ · with online := true })).threat r' = m.threat r' := by
      intro r'
      apply threat_congr
      by_cases h : r' = r
      · subst h
        simp [href]
      · rw [modify_refs_of_ne _ h]
    have habove : (m.modify r ({ · with online := true })).isAbove r = m.isAbove r := by
      funext v
      simp [isAbove, hthreat]
    rw [if_pos rfl, processThreatEvent]
    simp only [modify, href, Option.map_some] at habove
    by_cases hv : m.victim.elim false (m.isAbove r) = true
    · simp [modify, isOnline, setDirty, moved, href, habove, hv]
    · simp [modify, isOnline, moved, href, habove, hv]

/-! ## The invariant -/

namespace Partitioned

def shape (ref : HostileReference U K) : U × Bool × Bool := (ref.unit, ref.online, ref.valid)

omit [ThreatNumber K] in
theorem init (owner : U) : (ThreatManager.Partitioned ({ owner := owner } : ThreatManager U K)) := by
  constructor <;> simp

omit [ThreatNumber K] in
theorem congr (h : m.Partitioned) (hrefs : ∀ r, (m'.refs r).map shape = (m.refs r).map shape)
    (hon : m'.onlineList = m.onlineList) (hoff : m'.offlineList = m.offlineList)
    (hnext : m'.nextRef = m.nextRef) (hvictim : m'.victim = m.victim) : m'.Partitioned := by
  have hback : ∀ r ref', m'.refs r = some ref' → ∃ ref, m.refs r = some ref ∧
      ref.unit = ref'.unit ∧ ref.online = ref'.online ∧ ref.valid = ref'.valid := by
    intro r ref' hr
    have := hrefs r
    rw [hr] at this
    obtain ⟨ref, href, hshape⟩ := Option.map_eq_some_iff.mp this.symm
    simp only [shape, Prod.mk.injEq] at hshape
    exact ⟨ref, href, hshape⟩
  have hforth : ∀ r ref, m.refs r = some ref → ∃ ref', m'.refs r = some ref' ∧
      ref'.online = ref.online := by
    intro r ref hr
    have := hrefs r
    rw [hr] at this
    obtain ⟨ref', href, hshape⟩ := Option.map_eq_some_iff.mp this
    simp only [shape, Prod.mk.injEq] at hshape
    exact ⟨ref', href, hshape.2.1⟩
  have hflag : ∀ r b, (∃ ref, m'.refs r = some ref ∧ ref.online = b) ↔
      ∃ ref, m.refs r = some ref ∧ ref.online = b := by
    intro r b
    constructor
    · rintro ⟨ref', hr, hb⟩
      obtain ⟨ref, hr', -, hon, -⟩ := hback r ref' hr
      exact ⟨ref, hr', hon.trans hb⟩
    · rintro ⟨ref, hr, hb⟩
      obtain ⟨ref', hr', hon⟩ := hforth r ref hr
      exact ⟨ref', hr', hon.trans hb⟩
  refine ⟨?_, ?_, ?_, ?_, ?_, ?_, ?_⟩
  · rw [hon, hoff]
    exact h.nodup
  · intro r
    rw [hon, hflag]
    exact h.online r
  · intro r
    rw [hoff, hflag]
    exact h.offline r
  · intro r ref' hr
    obtain ⟨ref, hr', -, -, hvalid⟩ := hback r ref' hr
    exact hvalid ▸ h.valid r ref hr'
  · intro r r' ref₁ ref₂ hr hr' hunit
    obtain ⟨ref₁', hr₁, hu₁, -⟩ := hback r ref₁ hr
    obtain ⟨ref₂', hr₂, hu₂, -⟩ := hback r' ref₂ hr'
    exact h.single r r' ref₁' ref₂' hr₁ hr₂ ((hu₁.trans hunit).trans hu₂.symm)
  · intro r hr
    rw [hon]
    exact h.victim r (hvictim ▸ hr)
  · intro r ref' hr
    obtain ⟨ref, hr', -⟩ := hback r ref' hr
    rw [hnext]
    exact h.fresh r ref hr'

omit [ThreatNumber K] in
theorem modify {f : HostileReference U K → HostileReference U K} (h : m.Partitioned)
    (hf : ∀ ref, m.refs r = some ref → shape (f ref) = shape ref) :
    (m.modify r f).Partitioned := by
  refine h.congr (fun r' => ?_) rfl rfl rfl rfl
  by_cases hr : r' = r
  · subst hr
    cases href : m.refs r' with
    | none => simp [href]
    | some ref => simp [href, hf ref href]
  · rw [modify_refs_of_ne f hr]

omit [ThreatNumber K] in
theorem setDirty (h : m.Partitioned) : m.setDirty.Partitioned :=
  h.congr (fun _ => rfl) rfl rfl rfl rfl

theorem setAccessibleState (h : m.Partitioned) (b : Bool) :
    (m.setAccessibleState r b).Partitioned := by
  rw [setAccessibleState_eq]
  exact h.modify fun _ _ => rfl

theorem threatChange (h : m.Partitioned) (value : K) :
    (m.processThreatEvent r (.threatChange value)).Partitioned := by
  simp only [processThreatEvent]
  split_ifs
  · exact h.setDirty
  · exact h

theorem moved (h : m.Partitioned) (href : m.refs r = some ref) {b : Bool} (hb : ref.online ≠ b) :
    (m.moved r ref b).Partitioned := by
  have hkey : ∀ r' c, (∃ ref', (m.moved r ref b).refs r' = some ref' ∧ ref'.online = c) ↔
      (r' = r ∧ c = b) ∨ (r' ≠ r ∧ ∃ ref', m.refs r' = some ref' ∧ ref'.online = c) := by
    intro r' c
    by_cases hr : r' = r
    · subst hr
      simp [ThreatManager.moved, eq_comm]
    · simp [ThreatManager.moved, hr]
  have hback : ∀ r' ref', (m.moved r ref b).refs r' = some ref' → ∃ ref₀, m.refs r' = some ref₀ ∧
      ref₀.unit = ref'.unit ∧ ref₀.valid = ref'.valid := by
    intro r' ref' hr'
    by_cases hr : r' = r
    · subst hr
      simp only [ThreatManager.moved, Function.update_self, Option.some.injEq] at hr'
      subst hr'
      exact ⟨ref, href, rfl, rfl⟩
    · simp only [ThreatManager.moved, Function.update_of_ne hr] at hr'
      exact ⟨ref', hr', rfl, rfl⟩
  refine ⟨?_, ?_, ?_, ?_, ?_, ?_, ?_⟩
  · obtain ⟨hon, hoff, hdis⟩ := List.nodup_append.mp h.nodup
    cases b with
    | true =>
      have hr : r ∉ m.onlineList := by
        rintro hr
        obtain ⟨ref', hr', hflag⟩ := (h.online r).mp hr
        rw [href] at hr'
        exact hb (Option.some.inj hr' ▸ hflag)
      simp only [ThreatManager.moved, if_true]
      grind
    | false =>
      have hr : r ∉ m.offlineList := by
        rintro hr
        obtain ⟨ref', hr', hflag⟩ := (h.offline r).mp hr
        rw [href] at hr'
        exact hb (Option.some.inj hr' ▸ hflag)
      simp only [ThreatManager.moved, Bool.false_eq_true, if_false]
      grind
  · intro r'
    rw [hkey, ← h.online]
    cases b <;> simp [ThreatManager.moved] <;> grind
  · intro r'
    rw [hkey, ← h.offline]
    cases b <;> simp [ThreatManager.moved] <;> grind
  · intro r' ref' hr'
    obtain ⟨ref₀, hr₀, -, hvalid⟩ := hback r' ref' hr'
    exact hvalid ▸ h.valid r' ref₀ hr₀
  · intro r₁ r₂ ref₁ ref₂ h₁ h₂ hunit
    obtain ⟨ref₁', hr₁, hu₁, -⟩ := hback r₁ ref₁ h₁
    obtain ⟨ref₂', hr₂, hu₂, -⟩ := hback r₂ ref₂ h₂
    exact h.single r₁ r₂ ref₁' ref₂' hr₁ hr₂ ((hu₁.trans hunit).trans hu₂.symm)
  · intro r' hr'
    have hv := h.victim r'
    cases b <;> simp [ThreatManager.moved] at hr' ⊢ <;> grind
  · intro r' ref' hr'
    obtain ⟨ref₀, hr₀, -⟩ := hback r' ref' hr'
    exact h.fresh r' ref₀ hr₀

theorem setOnlineOfflineState (h : m.Partitioned) (b : Bool) :
    (m.setOnlineOfflineState r b).Partitioned := by
  cases href : m.refs r with
  | none => simpa [ThreatManager.setOnlineOfflineState, href] using h
  | some ref =>
    by_cases hb : ref.online = b
    · simpa [ThreatManager.setOnlineOfflineState, href, hb] using h
    · rw [setOnlineOfflineState_eq href hb]
      exact h.moved href hb

theorem updateOnlineStatus (h : m.Partitioned) : (m.updateOnlineStatus w r).Partitioned := by
  cases href : m.refs r with
  | none => simpa [ThreatManager.updateOnlineStatus, href] using h
  | some ref =>
    simp only [ThreatManager.updateOnlineStatus, href]
    refine Partitioned.setOnlineOfflineState (Partitioned.setAccessibleState ?_ _) _
    refine h.modify fun ref' href' => ?_
    have hvalid := h.valid r ref href
    rw [href] at href'
    simp [shape, hvalid, ← Option.some.inj href']

theorem changeThreat (h : m.Partitioned) (threat : K) :
    (m.changeThreat w r threat).Partitioned := by
  cases href : m.refs r with
  | none => simpa [ThreatManager.changeThreat, href] using h
  | some ref =>
    simp only [ThreatManager.changeThreat, href]
    have hmod : (m.modify r fun ref => { ref with threat := ref.threat + threat }).Partitioned :=
      h.modify fun _ _ => rfl
    split_ifs
    · exact hmod.threatChange threat
    · exact hmod.updateOnlineStatus.threatChange threat
    · exact hmod
    · exact hmod.updateOnlineStatus

omit [ThreatNumber K] in
theorem erase (h : m.Partitioned) (hr : r ∈ m.offlineList) :
    ThreatManager.Partitioned { m with
      refs := Function.update m.refs r none
      offlineList := m.offlineList.filter (· ≠ r) } := by
  obtain ⟨-, -, hdis⟩ := List.nodup_append.mp h.nodup
  have hback : ∀ r' ref', Function.update m.refs r none r' = some ref' → r' ≠ r ∧
      m.refs r' = some ref' := by
    intro r' ref' hr'
    by_cases he : r' = r
    · subst he
      simp at hr'
    · exact ⟨he, by rwa [Function.update_of_ne he] at hr'⟩
  refine ⟨?_, ?_, ?_, ?_, ?_, h.victim, ?_⟩
  · exact h.nodup.sublist (List.filter_sublist.append_left _)
  · intro r'
    constructor
    · intro hr'
      obtain ⟨ref', href', hflag⟩ := (h.online r').mp hr'
      have hne : r' ≠ r := hdis r' hr' r hr
      exact ⟨ref', (Function.update_of_ne hne _ _).trans href', hflag⟩
    · rintro ⟨ref', href', hflag⟩
      exact (h.online r').mpr ⟨ref', (hback r' ref' href').2, hflag⟩
  · intro r'
    constructor
    · intro hr'
      obtain ⟨hmem, hne⟩ := List.mem_filter.mp hr'
      obtain ⟨ref', href', hflag⟩ := (h.offline r').mp hmem
      have hne' : r' ≠ r := by simpa using hne
      exact ⟨ref', (Function.update_of_ne hne' _ _).trans href', hflag⟩
    · rintro ⟨ref', href', hflag⟩
      obtain ⟨hne, hold⟩ := hback r' ref' href'
      exact List.mem_filter.mpr ⟨(h.offline r').mpr ⟨ref', hold, hflag⟩, by simpa using hne⟩
  · intro r' ref' hr'
    exact h.valid r' ref' (hback r' ref' hr').2
  · intro r₁ r₂ ref₁ ref₂ h₁ h₂
    exact h.single r₁ r₂ ref₁ ref₂ (hback r₁ ref₁ h₁).2 (hback r₂ ref₂ h₂).2
  · intro r' ref' hr'
    exact h.fresh r' ref' (hback r' ref' hr').2

/-- `invalidate` moves the reference to the offline list, where the removal finds it. -/
theorem removeReference_eq (h : m.Partitioned) (href : m.refs r = some ref) :
    m.removeReference r = { m.setOnlineOfflineState r false with
      refs := Function.update (m.setOnlineOfflineState r false).refs r none
      offlineList := (m.setOnlineOfflineState r false).offlineList.filter (· ≠ r) } := by
  have hoff := h.setOnlineOfflineState (r := r) false
  obtain ⟨ref', href', hflag⟩ : ∃ ref', (m.setOnlineOfflineState r false).refs r = some ref' ∧
      ref'.online = false := by
    by_cases hb : ref.online = false
    · exact ⟨ref, by simp [ThreatManager.setOnlineOfflineState, href, hb], hb⟩
    · rw [setOnlineOfflineState_eq href hb]
      simp [ThreatManager.moved]
  have hvictim : (m.setOnlineOfflineState r false).victim ≠ some r := by
    intro hv
    obtain ⟨ref₀, href₀, hflag₀⟩ := (hoff.online r).mp (hoff.victim r hv)
    rw [href'] at href₀
    rw [← Option.some.inj href₀, hflag] at hflag₀
    cases hflag₀
  simp only [removeReference, href, invalidate]
  generalize m.setOnlineOfflineState r false = m₁ at *
  simp [ThreatManager.modify, processThreatEvent, hvictim, isOnline, href', hflag]

theorem removeReference (h : m.Partitioned) : (m.removeReference r).Partitioned := by
  cases href : m.refs r with
  | none => simpa [ThreatManager.removeReference, href] using h
  | some ref =>
    have hoff := h.setOnlineOfflineState (r := r) false
    rw [h.removeReference_eq href]
    refine hoff.erase ((hoff.offline r).mpr ?_)
    by_cases hb : ref.online = false
    · exact ⟨ref, by simp [ThreatManager.setOnlineOfflineState, href, hb], hb⟩
    · rw [setOnlineOfflineState_eq href hb]
      simp [ThreatManager.moved]

omit [ThreatNumber K] in
theorem clearReferences (h : m.Partitioned) : m.clearReferences.Partitioned := by
  have hall : ∀ r, m.clearReferences.refs r = none := by
    intro r
    cases href : m.refs r with
    | none => simp [ThreatManager.clearReferences, href]
    | some ref =>
      have hmem : r ∈ m.onlineList ∨ r ∈ m.offlineList := by
        cases hb : ref.online with
        | true => exact .inl ((h.online r).mpr ⟨ref, href, hb⟩)
        | false => exact .inr ((h.offline r).mpr ⟨ref, href, hb⟩)
      exact if_pos hmem
  refine ⟨List.nodup_nil, ?_, ?_, ?_, ?_, fun r hr => (nomatch hr), ?_⟩
  · intro r
    rw [hall]
    simp [ThreatManager.clearReferences]
  · intro r
    rw [hall]
    simp [ThreatManager.clearReferences]
  · simp [hall]
  · simp [hall]
  · simp [hall]

theorem update (h : m.Partitioned) : m.update.Partitioned := by
  have hperm : List.Perm m.update.onlineList m.onlineList := by
    simp only [ThreatManager.update]
    split_ifs
    · exact List.perm_insertionSort _ _
    · exact List.Perm.refl _
  exact
    { nodup := (hperm.append_right _).nodup_iff.mpr h.nodup
      online := fun r => hperm.mem_iff.trans (h.online r)
      offline := h.offline
      valid := h.valid
      single := h.single
      victim := fun r hr => hperm.mem_iff.mpr (h.victim r hr)
      fresh := h.fresh }

omit [ThreatNumber K] in
theorem setVictim (h : m.Partitioned) {v : Option Nat} (hv : ∀ r, v = some r → r ∈ m.onlineList) :
    ThreatManager.Partitioned { m with victim := v } :=
  { h with victim := hv }

variable [DecidableEq U]

omit [ThreatNumber K] in
theorem lookup_none {list : List Nat} (h : m.getReferenceByTarget list u = none) (hr : r ∈ list)
    (href : m.refs r = some ref) : ref.unit ≠ u := by
  have := List.find?_eq_none.mp h r hr
  simpa [href] using this

omit [ThreatNumber K] in
theorem lookup_mem {list : List Nat} (h : m.getReferenceByTarget list u = some r) : r ∈ list :=
  List.mem_of_find?_eq_some h

omit [ThreatNumber K] in
theorem unit_ne (h : m.Partitioned) (hon : m.getReferenceByTarget m.onlineList u = none)
    (hoff : m.getReferenceByTarget m.offlineList u = none) (href : m.refs r = some ref) :
    ref.unit ≠ u := by
  cases hb : ref.online with
  | true => exact lookup_none hon ((h.online r).mpr ⟨ref, href, hb⟩) href
  | false => exact lookup_none hoff ((h.offline r).mpr ⟨ref, href, hb⟩) href

theorem addReference (h : m.Partitioned) (hon : m.getReferenceByTarget m.onlineList u = none)
    (hoff : m.getReferenceByTarget m.offlineList u = none) : (m.addReference u).Partitioned := by
  have hnew : m.refs m.nextRef = none := by
    cases href : m.refs m.nextRef with
    | none => rfl
    | some ref => exact absurd (h.fresh _ ref href) (lt_irrefl _)
  have hnon : m.nextRef ∉ m.onlineList := fun hr => by
    obtain ⟨ref, href, -⟩ := (h.online _).mp hr
    simp [hnew] at href
  have hnoff : m.nextRef ∉ m.offlineList := fun hr => by
    obtain ⟨ref, href, -⟩ := (h.offline _).mp hr
    simp [hnew] at href
  have hcase : ∀ r ref, (m.addReference u).refs r = some ref →
      (r = m.nextRef ∧ ref.unit = u ∧ ref.online = true ∧ ref.valid = true) ∨
      (r ≠ m.nextRef ∧ m.refs r = some ref) := by
    intro r ref href
    by_cases he : r = m.nextRef
    · subst he
      simp only [ThreatManager.addReference, Function.update_self, Option.some.injEq] at href
      subst href
      exact .inl ⟨rfl, rfl, rfl, rfl⟩
    · exact .inr ⟨he, by simpa [ThreatManager.addReference, he] using href⟩
  have hold : ∀ r, r ≠ m.nextRef → (m.addReference u).refs r = m.refs r := by
    intro r hr
    simp [ThreatManager.addReference, hr]
  refine ⟨?_, ?_, ?_, ?_, ?_, ?_, ?_⟩
  · have hnodup := h.nodup
    simp only [ThreatManager.addReference]
    grind
  · intro r
    simp only [ThreatManager.addReference, List.mem_append, List.mem_singleton]
    by_cases he : r = m.nextRef
    · simp [he]
    · simp [he, h.online]
  · intro r
    by_cases he : r = m.nextRef
    · subst he
      simp [ThreatManager.addReference, hnoff]
    · rw [hold r he]
      exact h.offline r
  · intro r ref href
    obtain ⟨-, -, -, hvalid⟩ | ⟨-, hr⟩ := hcase r ref href
    · exact hvalid
    · exact h.valid r ref hr
  · intro r r' ref ref' href href' hunit
    obtain ⟨rfl, hu, -⟩ | ⟨-, hr⟩ := hcase r ref href
    · obtain ⟨rfl, -⟩ | ⟨-, hr'⟩ := hcase r' ref' href'
      · rfl
      · exact absurd (hunit.symm.trans hu) (h.unit_ne hon hoff hr')
    · obtain ⟨rfl, hu', -⟩ | ⟨-, hr'⟩ := hcase r' ref' href'
      · exact absurd (hunit.trans hu') (h.unit_ne hon hoff hr)
      · exact h.single r r' ref ref' hr hr' hunit
  · intro r hr
    exact List.mem_append_left _ (h.victim r hr)
  · intro r ref href
    obtain ⟨rfl, -⟩ | ⟨-, hr⟩ := hcase r ref href
    · exact Nat.lt_succ_self _
    · exact Nat.lt_succ_of_lt (h.fresh r ref hr)

omit [ThreatNumber K] in
theorem forceVictim (h : m.Partitioned) : (m.forceVictim u).Partitioned := by
  unfold ThreatManager.forceVictim
  split
  · rename_i r hr
    refine h.setVictim fun r' hr' => ?_
    cases hr'
    exact lookup_mem hr
  · exact h

theorem step (h : m.Partitioned) (s : ThreatStep U K) : (m.step w s).Partitioned := by
  cases s with
  | create u threat =>
    simp only [ThreatManager.step]
    split_ifs with hnew
    · exact (h.addReference hnew.1 hnew.2).changeThreat threat
    · exact h
  | change r threat => exact h.changeThreat threat
  | online r b => exact h.setOnlineOfflineState b
  | status r => exact h.updateOnlineStatus
  | temp r threat => exact h.modify fun _ _ => rfl
  | remove r => exact h.removeReference
  | clear => exact h.clearReferences
  | select =>
    exact h.update.setVictim fun r hr => selectNextVictim_mem h.update.victim hr
  | force u => exact h.forceVictim

theorem steps (h : m.Partitioned) (hs : Steps w m m') : m'.Partitioned := by
  obtain ⟨steps, rfl⟩ := hs
  induction steps generalizing m with
  | nil => exact h
  | cons s steps ih => exact ih (h.step s)

end Partitioned

end ThreatManager

variable [DecidableEq U]

/-- The calls, each in the world of its moment, lead from the one state to the other. -/
inductive ThreatCalls : ThreatManager U K → List (ThreatWorld U K × ThreatCall U K) →
    ThreatManager U K → Prop where
  | nil {m : ThreatManager U K} : ThreatCalls m [] m
  | cons {m m' m'' : ThreatManager U K} {w : ThreatWorld U K} {c : ThreatCall U K} {fuel : Nat}
      {calls : List (ThreatWorld U K × ThreatCall U K)} :
      m.exec w fuel c = some m' → ThreatCalls m' calls m'' → ThreatCalls m ((w, c) :: calls) m''

theorem ThreatCalls.partitioned {m m' : ThreatManager U K}
    {calls : List (ThreatWorld U K × ThreatCall U K)} (h : ThreatCalls m calls m')
    (hm : m.Partitioned) : m'.Partitioned := by
  induction h with
  | nil => exact hm
  | cons hc _ ih => exact ih (hm.steps (ThreatManager.exec_steps hc))

def ThreatManager.execAll (fuel : Nat) : ThreatManager U K →
    List (ThreatWorld U K × ThreatCall U K) → Option (ThreatManager U K)
  | m, [] => some m
  | m, (w, c) :: calls => (m.exec w fuel c).bind (·.execAll fuel calls)

theorem ThreatCalls.of_execAll {fuel : Nat} {m m' : ThreatManager U K}
    {calls : List (ThreatWorld U K × ThreatCall U K)} (h : m.execAll fuel calls = some m') :
    ThreatCalls m calls m' := by
  induction calls generalizing m with
  | nil => exact Option.some.inj h ▸ .nil
  | cons call calls ih =>
    obtain ⟨m₁, h₁, h₂⟩ := Option.bind_eq_some_iff.mp h
    exact .cons h₁ (ih h₂)

/-- The containers after any calls: each unit has at most one reference, which stands once, online
exactly if its flag is set and offline otherwise; the current victim is online. -/
theorem threatContainers_partition (owner : U) {m : ThreatManager U K}
    {calls : List (ThreatWorld U K × ThreatCall U K)} (h : ThreatCalls { owner := owner } calls m) :
    (∀ r r' ref ref', m.refs r = some ref → m.refs r' = some ref' → ref.unit = ref'.unit → r = r') ∧
      (∀ r ref, m.refs r = some ref → (r ∈ m.onlineList ↔ ref.online = true) ∧
        (r ∈ m.offlineList ↔ ref.online = false)) ∧
      (∀ r, r ∈ m.onlineList ∨ r ∈ m.offlineList → ∃ ref, m.refs r = some ref) ∧
      (m.onlineList ++ m.offlineList).Nodup ∧
      (m.victim = none ∨ ∃ v ∈ m.onlineList, m.victim = some v) := by
  have hp := h.partitioned (.init owner)
  refine ⟨hp.single, fun r ref href => ⟨?_, ?_⟩, ?_, hp.nodup, ?_⟩
  · simp [hp.online, href]
  · simp [hp.offline, href]
  · rintro r (hr | hr)
    · obtain ⟨ref, href, -⟩ := (hp.online r).mp hr
      exact ⟨ref, href⟩
    · obtain ⟨ref, href, -⟩ := (hp.offline r).mp hr
      exact ⟨ref, href⟩
  · cases hv : m.victim with
    | none => exact .inl rfl
    | some v => exact .inr ⟨v, hp.victim v hv, rfl⟩

/-- A world where all units can be reached and attacked; unit 2 is the pet of unit 1. -/
def petWorld : ThreatWorld Nat ℚ where
  isGameMaster _ := false
  isAlive _ := true
  isInMap _ := true
  isInFlight _ := false
  isInAccessiblePlace _ := true
  isWithinCombatRange _ := true
  isWithinMeleeRange _ := false
  isFound _ := true
  charmerOrOwner u := if u = 2 then some 1 else none
  reducedThreatPercent _ := 0
  misdirectionTarget _ := none
  glyphOfVigilance _ := none
  spellMod _ threat := threat
  hasModThreat _ := false
  threatModifier _ _ := 1
  isImmunedToDamage _ := false
  hasBreakableAura _ := false
  canCreatureAttack _ := true

/-- The pet is attacked and its owner hated with it; the owner leaves the list and comes back. -/
def petFight : List (ThreatWorld Nat ℚ × ThreatCall Nat ℚ) :=
  [(petWorld, .addThreat 2 100 0 none), (petWorld, .getHostilTarget),
    (petWorld, .setOnlineOfflineState 1 false), (petWorld, .addThreat 3 50 0 none),
    (petWorld, .tauntApply 3), (petWorld, .addThreat 1 10 0 none), (petWorld, .tauntFadeOut 3),
    (petWorld, .setOnlineOfflineState 0 false), (petWorld, .removeReference 2),
    (petWorld, .getHostilTarget)]

theorem threatContainers_partition_pet :
    ∃ m, ThreatCalls { owner := 0 } petFight m ∧
      (∀ r r' ref ref', m.refs r = some ref → m.refs r' = some ref' → ref.unit = ref'.unit →
        r = r') ∧
      (m.onlineList ++ m.offlineList).Nodup ∧
      (m.victim = none ∨ ∃ v ∈ m.onlineList, m.victim = some v) ∧
      (m.onlineList, m.offlineList, m.victim) = ([1], [0], some 1) := by
  have hend : ((ThreatManager.execAll 3 { owner := 0 } petFight).map fun m =>
      (m.onlineList, m.offlineList, m.victim)) = some ([1], [0], some 1) := by decide +kernel
  obtain ⟨m, hm, hlists⟩ := Option.map_eq_some_iff.mp hend
  have hrun := ThreatCalls.of_execAll hm
  obtain ⟨hsingle, -, -, hnodup, hvictim⟩ := threatContainers_partition 0 hrun
  exact ⟨m, hrun, hsingle, hnodup, hvictim, hlists⟩

end Partition

/-!
## One list

The threat that goes up the chain of owners ends, where no unit is its own owner's owner.
-/

section Owner

variable {U K : Type} [ThreatNumber K]

def ThreatWorld.Ranked (w : ThreatWorld U K) (rank : U → Nat) : Prop :=
  ∀ u v, w.charmerOrOwner u = some v → rank v < rank u

namespace ThreatManager

variable {w : ThreatWorld U K} {m m' : ThreatManager U K} {r r' : Nat} {u : U} {rank : U → Nat}
  {fuel : Nat} {threat : K}

def unitOf (m : ThreatManager U K) (r : Nat) : Option U := (m.refs r).map (·.unit)

@[simp] theorem processThreatEvent_refs {e : ThreatRefEvent K} :
    (m.processThreatEvent r e).refs = m.refs := by
  cases e with
  | accessibleStatus => rfl
  | _ =>
    simp only [processThreatEvent]
    split_ifs <;> rfl

theorem unitOf_processThreatEvent {e : ThreatRefEvent K} :
    (m.processThreatEvent r e).unitOf r' = m.unitOf r' := by
  simp [unitOf]

omit [ThreatNumber K] in
theorem unitOf_modify {f : HostileReference U K → HostileReference U K}
    (hf : ∀ ref, (f ref).unit = ref.unit) : (m.modify r f).unitOf r' = m.unitOf r' := by
  by_cases h : r' = r
  · subst h
    simp [unitOf, hf, Function.comp_def]
  · simp [unitOf, modify_refs_of_ne f h]

theorem unitOf_setAccessibleState {b : Bool} :
    (m.setAccessibleState r b).unitOf r' = m.unitOf r' := by
  rw [setAccessibleState_eq]
  exact unitOf_modify fun _ => rfl

theorem unitOf_setOnlineOfflineState {b : Bool} :
    (m.setOnlineOfflineState r b).unitOf r' = m.unitOf r' := by
  unfold setOnlineOfflineState
  split
  · rfl
  · dsimp only
    split_ifs
    · rfl
    · rw [unitOf_processThreatEvent]
      exact unitOf_modify fun _ => rfl
    · rw [unitOf_processThreatEvent, unitOf_setAccessibleState]
      exact unitOf_modify fun _ => rfl

theorem unitOf_updateOnlineStatus : (m.updateOnlineStatus w r).unitOf r' = m.unitOf r' := by
  unfold updateOnlineStatus
  split
  · rfl
  · dsimp only
    rw [unitOf_setOnlineOfflineState, unitOf_setAccessibleState]
    exact unitOf_modify fun _ => rfl

theorem unitOf_changeThreat : (m.changeThreat w r threat).unitOf r' = m.unitOf r' := by
  have hmod : (m.modify r fun ref => { ref with threat := ref.threat + threat }).unitOf r' =
      m.unitOf r' := unitOf_modify fun _ => rfl
  unfold changeThreat
  split
  · rfl
  · dsimp only
    split_ifs
    · rw [unitOf_processThreatEvent, hmod]
    · rw [unitOf_processThreatEvent, unitOf_updateOnlineStatus, hmod]
    · exact hmod
    · rw [unitOf_updateOnlineStatus, hmod]

variable [DecidableEq U]

omit [ThreatNumber K] in
theorem unitOf_lookup {list : List Nat} (h : m.getReferenceByTarget list u = some r) :
    m.unitOf r = some u := by
  have hfind := List.find?_some h
  cases href : m.refs r with
  | none => simp [href] at hfind
  | some ref => simpa [unitOf, href] using hfind

section Chain

variable {addThreatToOwner : ThreatManager U K → U → Option (ThreatManager U K)}
  (hrank : w.Ranked rank)
  (howner : ∀ m u, rank u < fuel → (addThreatToOwner m u).isSome)

include hrank howner

omit [DecidableEq U] in
theorem refAddThreat_isSome (h : ∀ u, m.unitOf r = some u → rank u ≤ fuel) :
    (m.refAddThreat w addThreatToOwner r threat).isSome := by
  unfold refAddThreat
  dsimp only
  split
  · rename_i v hv
    split_ifs
    · obtain ⟨ref, href, hv⟩ := Option.bind_eq_some_iff.mp hv
      have hunit : m.unitOf r = some ref.unit := by
        have hsame : (m.changeThreat w r threat).unitOf r = m.unitOf r := unitOf_changeThreat
        rw [← hsame, unitOf, href]
        rfl
      exact howner _ v ((hrank _ _ hv).trans_le (h _ hunit))
    · rfl
  · rfl

theorem addThreatTo_isSome (hu : rank u ≤ fuel) :
    (m.addThreatTo w addThreatToOwner u threat).isSome := by
  have hone : ∀ {m : ThreatManager U K} {r : Nat}, m.unitOf r = some u →
      (m.refAddThreat w addThreatToOwner r threat).isSome := by
    intro m r hr
    refine refAddThreat_isSome hrank howner fun u' hu' => ?_
    rw [hr] at hu'
    exact Option.some.inj hu' ▸ hu
  unfold addThreatTo
  split
  · rename_i r hr
    exact hone (unitOf_lookup hr)
  · split
    · rename_i r hr
      exact hone (unitOf_lookup hr)
    · dsimp only
      rw [Option.isSome_map]
      refine hone ?_
      simp [unitOf, addReference]

theorem doAddThreat_isSome (hu : rank u ≤ fuel)
    (ht : 0 < threat → ∀ t, w.misdirectionTarget u = some t → rank t ≤ fuel) :
    (m.doAddThreat w addThreatToOwner u threat).isSome := by
  unfold doAddThreat
  dsimp only
  split_ifs with hred
  · split
    · exact addThreatTo_isSome hrank howner hu
    · rename_i t htarget
      obtain ⟨m₁, hm₁⟩ := Option.isSome_iff_exists.mp
        (addThreatTo_isSome (m := m) (u := t) hrank howner (ht hred.1 t htarget))
      rw [hm₁, Option.bind_some]
      exact addThreatTo_isSome hrank howner hu
  · exact addThreatTo_isSome hrank howner hu

end Chain

omit [DecidableEq U] in
theorem calcThreat_zero : w.calcThreat u 0 0 none = 0 := by
  simp [ThreatWorld.calcThreat, ThreatWorld.applyTotalThreatModifier]

theorem ownerAddThreat_isSome (hrank : w.Ranked rank) (hu : rank u < fuel) :
    (ownerAddThreat w fuel m u).isSome := by
  induction fuel generalizing m u with
  | zero => exact absurd hu (Nat.not_lt_zero _)
  | succ fuel ih =>
    rw [ownerAddThreat, addThreatWith, calcThreat_zero]
    split_ifs
    · exact doAddThreat_isSome hrank (fun _ _ h => ih h) (Nat.lt_succ_iff.mp hu)
        fun h => absurd h (lt_irrefl _)
    · rfl

section Returns

variable (hrank : w.Ranked rank)

include hrank

theorem addRefThreat_returns : ∃ fuel, (m.addRefThreat w fuel r threat).isSome := by
  refine ⟨(m.unitOf r).elim 0 rank, refAddThreat_isSome hrank
    (fun _ _ h => ownerAddThreat_isSome hrank h) fun u hu => ?_⟩
  rw [hu, Option.elim_some]

theorem doAddThreat_returns :
    ∃ fuel, (m.doAddThreat w (ownerAddThreat w fuel) u threat).isSome := by
  refine ⟨max (rank u) ((w.misdirectionTarget u).elim 0 rank), doAddThreat_isSome hrank
    (fun _ _ h => ownerAddThreat_isSome hrank h) (le_max_left _ _) fun _ t ht => ?_⟩
  rw [ht, Option.elim_some]
  exact le_max_right _ _

theorem addThreat_returns {school : Nat} {spell : Option (ThreatSpell K)} :
    ∃ fuel, (m.addThreat w fuel u threat school spell).isSome := by
  unfold addThreat addThreatWith
  by_cases h : m.isValidProcess w u spell
  · simp only [h, if_true]
    exact doAddThreat_returns hrank
  · simp [h]

theorem addTempThreat_returns : ∃ fuel, (m.addTempThreat w fuel r threat).isSome := by
  unfold addTempThreat
  dsimp only
  split_ifs
  · exact addRefThreat_returns hrank
  · exact ⟨0, rfl⟩

theorem resetTempThreat_returns : ∃ fuel, (m.resetTempThreat w fuel r).isSome := by
  unfold resetTempThreat
  split_ifs
  · simp only [Option.isSome_map]
    exact addRefThreat_returns hrank
  · exact ⟨0, rfl⟩

theorem effectTaunt_returns : ∃ fuel, (m.effectTaunt w fuel u).isSome := by
  unfold effectTaunt
  simp only [Option.isSome_map]
  split
  · split_ifs
    · exact addThreat_returns hrank
    · exact ⟨0, rfl⟩
  · exact ⟨0, rfl⟩

theorem exec_returns (c : ThreatCall U K) : ∃ fuel, (m.exec w fuel c).isSome := by
  cases c with
  | addThreat u threat school spell => exact addThreat_returns hrank
  | threatAssist u threat spell =>
    simp only [exec]
    split_ifs
    · exact doAddThreat_returns hrank
    · exact ⟨0, rfl⟩
  | modifyThreatPercent u percent =>
    simp only [exec, modifyThreatPercent]
    split
    · exact ⟨0, rfl⟩
    · split_ifs
      · exact ⟨0, rfl⟩
      · exact addRefThreat_returns hrank
  | addThreatPercent r percent => exact addRefThreat_returns hrank
  | addTempThreat r threat apply =>
    simp only [exec]
    split_ifs
    · exact addTempThreat_returns hrank
    · exact ⟨0, rfl⟩
    · exact resetTempThreat_returns hrank
  | tauntApply u =>
    simp only [exec, tauntApply]
    split
    · split_ifs
      · exact addTempThreat_returns hrank
      · exact ⟨0, rfl⟩
    · exact ⟨0, rfl⟩
  | tauntFadeOut u =>
    simp only [exec, tauntFadeOut]
    split
    · exact resetTempThreat_returns hrank
    · exact ⟨0, rfl⟩
  | effectTaunt u => exact effectTaunt_returns hrank
  | _ => exact ⟨0, rfl⟩

end Returns

end ThreatManager

variable [DecidableEq U]

/-- Every list of calls comes to an end where the owners of units are ranked, as they are where no chain
of owners is a circle. -/
theorem ThreatCalls.served {calls : List (ThreatWorld U K × ThreatCall U K)}
    (hrank : ∀ call ∈ calls, ∃ rank, call.1.Ranked rank) (m : ThreatManager U K) :
    ∃ m', ThreatCalls m calls m' := by
  induction calls generalizing m with
  | nil => exact ⟨m, .nil⟩
  | cons call calls ih =>
    obtain ⟨rank, hcall⟩ := hrank call (by simp)
    obtain ⟨fuel, hfuel⟩ := ThreatManager.exec_returns (m := m) hcall call.2
    obtain ⟨m₁, h₁⟩ := Option.isSome_iff_exists.mp hfuel
    obtain ⟨m', h'⟩ := ih (fun c hc => hrank c (by simp [hc])) m₁
    exact ⟨m', .cons h₁ h'⟩

theorem ThreatCalls.served_pet : ∃ m, ThreatCalls { owner := 0 } petFight m := by
  refine ThreatCalls.served (fun call hcall => ⟨id, fun u v hv => ?_⟩) _
  have hworld : call.1 = petWorld := by
    simp only [petFight, List.mem_cons, List.not_mem_nil, or_false] at hcall
    rcases hcall with rfl | rfl | rfl | rfl | rfl | rfl | rfl | rfl | rfl | rfl <;> rfl
  simp only [hworld, petWorld, Option.ite_none_right_eq_some, Option.some_inj] at hv
  simp only [id]
  omega

end Owner

end SkyfireBG
