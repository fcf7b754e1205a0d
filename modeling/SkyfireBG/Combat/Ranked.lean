import Mathlib.Tactic.Linarith
import SkyfireBG.Combat.Partition

/-!
# SkyfireBG.Combat.Ranked

The list of threat is sorted only when it is marked as dirty.

* `Ranked`    — marked, or what competes with the current victim stands in order.
* `KeepsOrder` — when a step keeps that.
-/

namespace SkyfireBG

namespace ThreatManager

section Ranked

variable {U K : Type} [ThreatNumber K]

section Statements

variable (w : ThreatWorld U K) (m : ThreatManager U K)

/-- More than 110% of the threat of the current victim; with none, every reference competes. -/
def competes (r : Nat) : Bool := m.victim.elim true (m.isAbove r)

def Ranked : Prop :=
  m.dirty ∨ m.onlineList.Pairwise fun a b => m.competes b → m.notBelow a b

/-- With no victim, a reference that comes online has at most the threat of each online one. -/
def EntersLast (threat : K) : Prop :=
  m.victim = none → ∀ a ∈ m.onlineList, threat ≤ m.threat a

/-- `updateOnlineStatus` brings the reference online. -/
def comesOnline (r : Nat) : Bool :=
  (m.refs r).elim false fun ref => !ref.online && onlineStatus w ref

local instance atLeastTwo_eleven : Nat.AtLeastTwo 11 := ⟨by decide⟩
local instance atLeastTwo_ten : Nat.AtLeastTwo 10 := ⟨by decide⟩

def KeepsOrder [DecidableEq U] : ThreatStep U K → Prop
  | .create _ threat =>
    m.dirty ∨ 0 < threat ∨
      ∀ a ∈ m.onlineList, (∀ v, m.victim = some v → 11 / 10 * m.threat v < threat) →
        threat ≤ m.threat a
  | .change r threat =>
    m.dirty ∨
      if m.isOnline r then
        if m.victim = some r then threat ≤ 0 ∨ 0 ≤ m.threat r + threat
        else 0 ≤ threat ∨ ∀ b, [r, b].Sublist m.onlineList → m.competes b →
          m.threat b ≤ m.threat r + threat
      else 0 < threat ∨ (m.comesOnline w r → m.EntersLast (m.threat r + threat))
  | .online r isOnline =>
    m.dirty ∨ (m.isOnline r = false → isOnline → m.EntersLast (m.threat r))
  | .status r => m.dirty ∨ (m.comesOnline w r → m.EntersLast (m.threat r))
  | .select =>
    m.dirty ∨ m.onlineList.Pairwise m.notBelow ∨
      ∀ v, m.victim = some v → m.canAttack w v ∧ ¬ m.isSecondChoice w v
  | .force u =>
    m.dirty ∨ ∀ r v, m.getReferenceByTarget m.onlineList u = some r → m.victim = some v →
      m.notBelow r v
  | .temp _ _ => True
  | .remove _ => True
  | .clear => True

end Statements

variable {w : ThreatWorld U K} {m m' : ThreatManager U K} {r : Nat}
  {ref : HostileReference U K}

theorem threat_modify {f : HostileReference U K → HostileReference U K}
    (hf : ∀ ref, (f ref).threat = ref.threat) (r' : Nat) :
    (m.modify r f).threat r' = m.threat r' := by
  apply threat_congr
  by_cases h : r' = r
  · subst h
    simp [hf, Function.comp_def]
  · rw [modify_refs_of_ne f h]

theorem threat_of_refs (h : m'.refs r = m.refs r) : m'.threat r = m.threat r := by
  simp [threat, h]

theorem threat_moved (href : m.refs r = some ref) {b : Bool} (r' : Nat) :
    (m.moved r ref b).threat r' = m.threat r' := by
  apply threat_congr
  by_cases h : r' = r
  · subst h
    simp [moved, href]
  · simp [moved, h]

theorem changeThreat_online (w : ThreatWorld U K) (href : m.refs r = some ref)
    (hon : ref.online = true) (threat : K) :
    m.changeThreat w r threat =
      { m.modify r (fun ref => { ref with threat := ref.threat + threat }) with
        dirty := m.dirty ||
          decide ((m.victim = some r ∧ threat < 0) ∨ (m.victim ≠ some r ∧ 0 < threat)) } := by
  have hon' : (m.modify r fun ref => { ref with threat := ref.threat + threat }).isOnline r =
      true := by
    simp [isOnline, href, hon]
  simp only [changeThreat, href]
  rw [if_pos hon']
  by_cases h0 : threat = 0
  · simp [h0, modify]
  · rw [if_pos h0, processThreatEvent]
    by_cases hd : (m.victim = some r ∧ threat < 0) ∨ (m.victim ≠ some r ∧ 0 < threat)
    · simp [modify, setDirty, hd]
    · simp [modify, hd]

theorem changeThreat_offline (w : ThreatWorld U K) (href : m.refs r = some ref)
    (hoff : ref.online = false) (threat : K) :
    m.changeThreat w r threat =
      let m₁ := (m.modify r fun ref => { ref with threat := ref.threat + threat }).updateOnlineStatus
        w r
      if threat ≠ 0 then m₁.processThreatEvent r (.threatChange threat) else m₁ := by
  have hoff' : (m.modify r fun ref => { ref with threat := ref.threat + threat }).isOnline r ≠
      true := by
    simp [isOnline, href, hoff]
  simp only [changeThreat, href]
  rw [if_neg hoff']

theorem victim_updateOnlineStatus {v : Nat} (h : (m.updateOnlineStatus w r).victim = some v) :
    m.victim = some v := by
  unfold updateOnlineStatus at h
  split at h
  · exact h
  · rename_i ref href
    dsimp only at h
    rw [setAccessibleState_eq] at h
    have hset : ∀ {m : ThreatManager U K} {b : Bool},
        (m.setOnlineOfflineState r b).victim = some v → m.victim = some v := by
      intro m b h
      cases href : m.refs r with
      | none => simpa [setOnlineOfflineState, href] using h
      | some ref =>
        by_cases hb : ref.online = b
        · simpa [setOnlineOfflineState, href, hb] using h
        · rw [setOnlineOfflineState_eq href hb] at h
          simp only [moved] at h
          split_ifs at h
          exact h
    have hv := hset h
    exact hv

theorem processThreatEvent_gain {threat : K} (hv : m.victim ≠ some r) (h : 0 < threat) :
    (m.processThreatEvent r (.threatChange threat)).dirty = true := by
  simp [processThreatEvent, hv, h, setDirty]

theorem competes_congr (hv : m'.victim = m.victim) (ht : ∀ v, m.victim = some v →
    m'.threat v = m.threat v) (h : m'.threat r = m.threat r) : m'.competes r = m.competes r := by
  unfold competes
  rw [hv]
  cases hm : m.victim with
  | none => rfl
  | some v => simp [isAbove, ht v hm, h]

namespace Ranked

theorem of_dirty (h : m.dirty = true) : m.Ranked := .inl h

theorem mono (h : m.Ranked) (hp : m'.Partitioned) (hd : m.dirty → m'.dirty)
    (hv : m'.victim = m.victim) (hl : m'.onlineList.Sublist m.onlineList)
    (ht : ∀ r ∈ m'.onlineList, m'.threat r = m.threat r) : m'.Ranked := by
  refine h.imp hd fun h => (h.sublist hl).imp_of_mem ?_
  intro a b ha hb hab hc
  have hvt : ∀ v, m.victim = some v → m'.threat v = m.threat v := by
    intro v hmv
    exact ht v (hp.victim v (hv.trans hmv))
  rw [competes_congr hv hvt (ht b hb)] at hc
  unfold notBelow
  rw [ht a ha, ht b hb]
  exact hab hc

theorem modify (h : m.Ranked) {f : HostileReference U K → HostileReference U K}
    (hf : ∀ ref, (f ref).threat = ref.threat) : (m.modify r f).Ranked := by
  refine h.imp id fun h => h.imp ?_
  intro a b hab hc
  have hcomp : (m.modify r f).competes b = m.competes b :=
    competes_congr rfl (fun v _ => threat_modify hf v) (threat_modify hf b)
  rw [hcomp] at hc
  unfold notBelow
  rw [threat_modify hf, threat_modify hf]
  exact hab hc

theorem threatChange (h : m.Ranked) (threat : K) :
    (m.processThreatEvent r (.threatChange threat)).Ranked := by
  simp only [processThreatEvent]
  split_ifs
  · exact .of_dirty rfl
  · exact h

theorem setOnlineOfflineState (h : m.Ranked) (hp : m.Partitioned) {b : Bool}
    (hk : m.dirty ∨ (m.isOnline r = false → b → m.EntersLast (m.threat r))) :
    (m.setOnlineOfflineState r b).Ranked := by
  have hp' := hp.setOnlineOfflineState (r := r) b
  cases href : m.refs r with
  | none => simpa [ThreatManager.setOnlineOfflineState, href] using h
  | some ref =>
    by_cases hb : ref.online = b
    · simpa [ThreatManager.setOnlineOfflineState, href, hb] using h
    rw [setOnlineOfflineState_eq href hb] at hp' ⊢
    cases b with
    | false =>
      by_cases hv : m.victim = some r
      · exact .of_dirty (by simp [moved, hv])
      · exact h.mono hp' (fun hd => by simp [moved, hd]) (by simp [moved, hv])
          (by simp [moved]) fun r' _ => threat_moved href r'
    | true =>
      by_cases hd : (m.moved r ref true).dirty = true
      · exact .of_dirty hd
      have hnd : m.dirty = false ∧ m.victim.elim false (m.isAbove r) = false := by
        simpa [moved] using hd
      have hlast : m.EntersLast (m.threat r) :=
        hk.resolve_left (by simp [hnd.1]) (by simpa [isOnline, href] using hb) rfl
      have hold := h.resolve_left (by simp [hnd.1])
      have hcomp : ∀ r', (m.moved r ref true).competes r' = m.competes r' := fun r' =>
        competes_congr (by simp [moved]) (fun v _ => threat_moved href v) (threat_moved href r')
      refine .inr ?_
      simp only [hcomp, notBelow, threat_moved href]
      refine List.pairwise_append.mpr ⟨hold, List.pairwise_singleton _ _, ?_⟩
      intro a ha b hb' hc
      obtain rfl := List.mem_singleton.mp hb'
      cases hv : m.victim with
      | none => exact hlast hv a ha
      | some v =>
        -- the event has marked the list
        rw [competes, hv] at hc
        have hnot := hnd.2
        rw [hv] at hnot
        rw [Option.elim_some] at hc hnot
        rw [hc] at hnot
        cases hnot

theorem updateOnlineStatus (h : m.Ranked) (hp : m.Partitioned)
    (hk : m.dirty ∨ (m.comesOnline w r → m.EntersLast (m.threat r))) :
    (m.updateOnlineStatus w r).Ranked := by
  cases href : m.refs r with
  | none => simpa [ThreatManager.updateOnlineStatus, href] using h
  | some ref =>
    simp only [ThreatManager.updateOnlineStatus, href]
    have hvalid := hp.valid r ref href
    have hpm : (m.modify r ({ · with valid := ref.valid || w.isFound ref.unit })).Partitioned := by
      refine hp.modify fun ref' href' => ?_
      rw [href] at href'
      simp [Partitioned.shape, hvalid, ← Option.some.inj href']
    have hrm : (m.modify r ({ · with valid := ref.valid || w.isFound ref.unit })).Ranked :=
      h.modify fun _ => rfl
    refine Ranked.setOnlineOfflineState ?_ (hpm.setAccessibleState _) (hk.imp ?_ ?_)
    · rw [setAccessibleState_eq]
      exact hrm.modify fun _ => rfl
    · intro hd
      rw [setAccessibleState_eq]
      exact hd
    · intro hk hoff hst
      rw [setAccessibleState_eq] at hoff ⊢
      have hlast : m.EntersLast (m.threat r) := by
        refine hk ?_
        have hflag : ref.online = false := by simpa [isOnline, ThreatManager.modify, href] using hoff
        simp [comesOnline, href, hflag, hst]
      have hthreat : ∀ r', ((m.modify r ({ · with valid := ref.valid || w.isFound ref.unit })).modify
          r ({ · with accessible := isNear w ref && w.isInAccessiblePlace ref.unit })).threat r' =
          m.threat r' := by
        intro r'
        rw [threat_modify, threat_modify] <;> exact fun _ => rfl
      intro hv a ha
      rw [hthreat, hthreat]
      exact hlast hv a ha

def gain (m : ThreatManager U K) (r : Nat) (threat : K) : ThreatManager U K :=
  m.modify r fun ref => { ref with threat := ref.threat + threat }

theorem gain_self (href : m.refs r = some ref) (threat : K) :
    (gain m r threat).threat r = m.threat r + threat := by
  simp [ThreatManager.threat, gain, href]

theorem gain_of_ne {r' : Nat} (hr : r' ≠ r) (threat : K) :
    (gain m r threat).threat r' = m.threat r' :=
  threat_of_refs (modify_refs_of_ne _ hr)

variable {threat : K}

theorem victim_gains (href : m.refs r = some ref) (hv : m.victim = some r)
    (hpos : 0 ≤ threat) (hk : threat ≤ 0 ∨ 0 ≤ m.threat r + threat)
    (h : m.onlineList.Pairwise fun a b => m.competes b → m.notBelow a b) :
    (gain m r threat).onlineList.Pairwise fun a b =>
      (gain m r threat).competes b → (gain m r threat).notBelow a b := by
  have hself := gain_self href threat
  have hthreat : ∀ r', m.threat r' ≤ (gain m r threat).threat r' := by
    intro r'
    by_cases hr : r' = r
    · subst hr
      rw [hself]
      linarith
    · rw [gain_of_ne hr]
  refine List.Pairwise.imp ?_ h
  intro a b hab hc
  replace hc : 11 / 10 * (m.threat r + threat) < (gain m r threat).threat b := by
    have hv' : (gain m r threat).victim = some r := hv
    simpa [competes, hv', isAbove, hself] using hc
  unfold notBelow at hab ⊢
  by_cases hb : b = r
  · subst hb
    rw [hself] at hc ⊢
    have h0 : threat = 0 := le_antisymm (hk.resolve_right (by linarith)) hpos
    rw [h0, add_zero] at hc ⊢
    refine (hab ?_).trans (h0 ▸ hthreat a)
    simpa [competes, hv, isAbove] using hc
  · rw [gain_of_ne hb] at hc ⊢
    refine (hab ?_).trans (hthreat a)
    simp only [competes, hv, Option.elim_some, isAbove, decide_eq_true_eq]
    linarith

theorem other_loses (href : m.refs r = some ref) (hv : m.victim ≠ some r)
    (hneg : threat ≤ 0)
    (hk : 0 ≤ threat ∨ ∀ b, [r, b].Sublist m.onlineList → m.competes b →
      m.threat b ≤ m.threat r + threat)
    (h : m.onlineList.Pairwise fun a b => m.competes b → m.notBelow a b) :
    (gain m r threat).onlineList.Pairwise fun a b =>
      (gain m r threat).competes b → (gain m r threat).notBelow a b := by
  have hself := gain_self href threat
  have hthreat : ∀ r', (gain m r threat).threat r' ≤ m.threat r' := by
    intro r'
    by_cases hr : r' = r
    · subst hr
      rw [hself]
      linarith
    · rw [gain_of_ne hr]
  refine List.pairwise_iff_forall_sublist.mpr ?_
  intro a b hab hc
  have hcb : m.competes b := by
    unfold competes at hc ⊢
    cases hm : m.victim with
    | none => rfl
    | some v =>
      have hm' : (gain m r threat).victim = some v := hm
      have hvr : v ≠ r := by
        rintro rfl
        exact hv hm
      rw [hm'] at hc
      simp only [Option.elim_some, isAbove, decide_eq_true_eq, gain_of_ne hvr] at hc ⊢
      exact hc.trans_le (hthreat b)
  have hold : m.notBelow a b := List.pairwise_iff_forall_sublist.mp h hab hcb
  unfold notBelow at hold ⊢
  by_cases ha : a = r
  · subst ha
    rw [hself]
    rcases hk with hpos | hk
    · rw [le_antisymm hneg hpos, add_zero]
      exact (le_antisymm hneg hpos ▸ hthreat b).trans hold
    · exact (hthreat b).trans (hk b hab hcb)
  · rw [gain_of_ne ha]
    exact (hthreat b).trans hold

theorem changeThreat_online (h : m.Ranked) (href : m.refs r = some ref)
    (hon : ref.online = true)
    (hk : m.dirty ∨ if m.victim = some r then threat ≤ 0 ∨ 0 ≤ m.threat r + threat
      else 0 ≤ threat ∨ ∀ b, [r, b].Sublist m.onlineList → m.competes b →
        m.threat b ≤ m.threat r + threat) :
    (m.changeThreat w r threat).Ranked := by
  rw [ThreatManager.changeThreat_online w href hon]
  by_cases hd : m.dirty = true
  · exact .of_dirty (by simp [hd])
  by_cases hev : (m.victim = some r ∧ threat < 0) ∨ (m.victim ≠ some r ∧ 0 < threat)
  · exact .of_dirty (by simp [hev])
  have hold := h.resolve_left hd
  replace hk := hk.resolve_left hd
  refine .inr ?_
  by_cases hv : m.victim = some r
  · rw [if_pos hv] at hk
    exact victim_gains href hv (not_lt.mp fun hneg => hev (.inl ⟨hv, hneg⟩)) hk hold
  · rw [if_neg hv] at hk
    exact other_loses href hv (not_lt.mp fun hpos => hev (.inr ⟨hv, hpos⟩)) hk hold

theorem changeThreat_offline (h : m.Ranked) (hp : m.Partitioned) (href : m.refs r = some ref)
    (hoff : ref.online = false)
    (hk : m.dirty ∨ 0 < threat ∨ (m.comesOnline w r → m.EntersLast (m.threat r + threat))) :
    (m.changeThreat w r threat).Ranked := by
  have hr : r ∉ m.onlineList := by
    intro hr
    obtain ⟨ref', href', hon⟩ := (hp.online r).mp hr
    rw [href] at href'
    rw [← Option.some.inj href', hoff] at hon
    cases hon
  have hpg : (gain m r threat).Partitioned := hp.modify fun _ _ => rfl
  have hne : ∀ r' ∈ m.onlineList, (gain m r threat).threat r' = m.threat r' := by
    intro r' hr'
    refine gain_of_ne ?_ threat
    rintro rfl
    exact hr hr'
  have hg : (gain m r threat).Ranked := h.mono hpg id rfl (List.Sublist.refl _) hne
  have hcomes : (gain m r threat).comesOnline w r = m.comesOnline w r := by
    simp only [comesOnline, gain, modify_refs_self, href]
    rfl
  have hstatus : m.dirty ∨ (m.comesOnline w r → m.EntersLast (m.threat r + threat)) →
      ((gain m r threat).updateOnlineStatus w r).Ranked := by
    intro hk
    refine hg.updateOnlineStatus hpg (hk.imp id fun hk hcome hv a ha => ?_)
    rw [hcomes] at hcome
    rw [gain_self href, hne a ha]
    exact hk hcome hv a ha
  rw [ThreatManager.changeThreat_offline w href hoff]
  by_cases hpos : 0 < threat
  · -- the reference is not the victim, so the gain marks the list
    have hv : ((gain m r threat).updateOnlineStatus w r).victim ≠ some r := by
      intro hv
      exact hr (hpg.victim r (victim_updateOnlineStatus hv))
    have hdirty := (processThreatEvent_gain hv hpos)
    exact (if_pos hpos.ne').symm ▸ .of_dirty hdirty
  · have hm := hstatus (hk.imp id fun hk => hk.resolve_left hpos)
    change Ranked (if threat ≠ 0 then
      ((gain m r threat).updateOnlineStatus w r).processThreatEvent r (.threatChange threat)
      else (gain m r threat).updateOnlineStatus w r)
    split_ifs
    · exact hm.threatChange threat
    · exact hm

theorem create [DecidableEq U] (h : m.Ranked) (hp : m.Partitioned) {u : U}
    (hk : m.dirty ∨ 0 < threat ∨
      ∀ a ∈ m.onlineList, (∀ v, m.victim = some v → 11 / 10 * m.threat v < threat) →
        threat ≤ m.threat a) :
    ((m.addReference u).changeThreat w m.nextRef threat).Ranked := by
  have hnew : m.nextRef ∉ m.onlineList := by
    intro hr
    obtain ⟨ref, href, -⟩ := (hp.online _).mp hr
    exact absurd (hp.fresh _ ref href) (lt_irrefl _)
  have href : (m.addReference u).refs m.nextRef = some
      { unit := u, threat := 0, temp := 0, online := true, accessible := true, valid := true } := by
    simp [addReference]
  have hvictim : m.victim ≠ some m.nextRef := fun hv => hnew (hp.victim _ hv)
  have hthreat : ∀ r ∈ m.onlineList, (gain (m.addReference u) m.nextRef threat).threat r =
      m.threat r := by
    intro r hr
    have hne : r ≠ m.nextRef := by
      rintro rfl
      exact hnew hr
    rw [gain_of_ne hne]
    exact threat_of_refs (by simp [addReference, hne])
  have hself : (gain (m.addReference u) m.nextRef threat).threat m.nextRef = threat := by
    rw [gain_self href]
    simp [ThreatManager.threat, addReference]
  rw [ThreatManager.changeThreat_online w href rfl]
  by_cases hd : m.dirty = true
  · exact .of_dirty (by simp [addReference, hd])
  by_cases hpos : 0 < threat
  · exact .of_dirty (by simp [addReference, hvictim, hpos])
  have hold := h.resolve_left hd
  replace hk := (hk.resolve_left hd).resolve_left hpos
  refine .inr ?_
  change (m.onlineList ++ [m.nextRef]).Pairwise fun a b =>
    (gain (m.addReference u) m.nextRef threat).competes b →
      (gain (m.addReference u) m.nextRef threat).notBelow a b
  refine List.pairwise_append.mpr ⟨hold.imp_of_mem ?_, List.pairwise_singleton _ _, ?_⟩
  · intro a b ha hb hab hc
    have hcomp : (gain (m.addReference u) m.nextRef threat).competes b = m.competes b :=
      competes_congr rfl (fun v hv => hthreat v (hp.victim v hv)) (hthreat b hb)
    unfold notBelow
    rw [hthreat a ha, hthreat b hb]
    exact hab (hcomp ▸ hc)
  · intro a ha b hb hc
    obtain rfl := List.mem_singleton.mp hb
    unfold notBelow
    rw [hself, hthreat a ha]
    refine hk a ha fun v hv => ?_
    have hv' : (gain (m.addReference u) m.nextRef threat).victim = some v := hv
    simpa [competes, hv', isAbove, hself, hthreat v (hp.victim v hv)] using hc

theorem update_pairwise (h : m.dirty ∨ m.onlineList.Pairwise m.notBelow) :
    m.update.onlineList.Pairwise m.notBelow := by
  by_cases hs : m.dirty ∧ 1 < m.onlineList.length
  · simp only [ThreatManager.update, if_pos hs]
    exact List.pairwise_insertionSort (fun a b => m.threat b ≤ m.threat a) m.onlineList
  · simp only [ThreatManager.update, if_neg hs]
    rcases h with hd | h
    · have hlen : m.onlineList.length ≤ 1 := not_lt.mp fun hlen => hs ⟨hd, hlen⟩
      rcases hl : m.onlineList with _ | ⟨r, _ | ⟨_, _⟩⟩
      · exact List.Pairwise.nil
      · exact List.pairwise_singleton _ _
      · rw [hl] at hlen
        simp at hlen
    · exact h

end Ranked

end Ranked

end ThreatManager

end SkyfireBG
