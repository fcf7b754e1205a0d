import SkyfireBG.Channel.Data
import SkyfireBG.Lib.Run

/-!
# SkyfireBG.Channel.Owned

The owner of a channel and its members.

* `Owned` — members are present and not banned, and the owner is one of them.
* `ChannelWorld.Orderly` — no owner puts himself out, and none goes where no one takes over.
* `channel_owned` — in orderly runs all channels are owned.
-/

namespace SkyfireBG

namespace Channel

structure Owned (c : Channel) (present : Finset Nat) : Prop where
  joined : ∀ k, c.isOn k = true → k ∈ present
  owner : c.ownerGUID = 0 ∨ c.isOn c.ownerGUID = true
  flag : ∀ k i, c.players.find? k = some i → i.isOwner = true → k = c.ownerGUID
  taken : c.isConstant = false → c.ownership = true → (∃ k, c.isOn k = true) → c.ownerGUID ≠ 0
  banned : ∀ k, c.isOn k = true → c.isBanned k = false

structure Seated (c : Channel) (present : Finset Nat) : Prop where
  joined : ∀ k, c.isOn k = true → k ∈ present
  flag : ∀ k i, c.players.find? k = some i → i.isOwner = true → k = c.ownerGUID
  banned : ∀ k, c.isOn k = true → c.isBanned k = false
  named : ∀ k i, c.players.find? k = some i → i.player = k
  positive : ∀ k, c.isOn k = true → k ≠ 0

structure Kept (c : Channel) (present : Finset Nat) : Prop extends
    Owned c present, Seated c present where
  flagged : ∀ i, c.players.find? c.ownerGUID = some i → i.isOwner = true

variable {c : Channel} {present : Finset Nat} {k who g : Nat} {p b : Chatter}
  {f : PlayerInfo → PlayerInfo} {i : PlayerInfo} {cfg : ChannelConfig}

theorem isOn_iff : c.isOn k = true ↔ ∃ i, c.players.find? k = some i := Option.isSome_iff_exists

theorem info_of (h : c.players.find? k = some i) : c.info k = i := by
  rw [info, h]
  rfl

theorem find?_modify : (c.modify who f).players.find? k =
    if k = who then some (f (c.info who)) else c.players.find? k := OrdMap.find?_set

theorem isOn_modify (h : c.isOn who = true) : (c.modify who f).isOn k = c.isOn k := by
  rw [isOn, isOn, find?_modify]
  split
  · rename_i hk
    rw [hk, Option.isSome_some]
    exact h.symm
  · rfl

theorem modify_entry (hon : c.isOn who = true) (hplayer : ∀ i, (f i).player = i.player)
    (hflag : ∀ i, (f i).isOwner = i.isOwner) (h : (c.modify who f).players.find? k = some i) :
    ∃ j, c.players.find? k = some j ∧ i.player = j.player ∧ i.isOwner = j.isOwner := by
  rw [find?_modify] at h
  split at h
  · rename_i hk
    obtain ⟨j, hj⟩ := isOn_iff.mp hon
    rw [info_of hj] at h
    cases h
    exact ⟨j, hk ▸ hj, hplayer j, hflag j⟩
  · exact ⟨i, h, rfl, rfl⟩

theorem Seated.modify (h : c.Seated present) (hon : c.isOn who = true)
    (hplayer : ∀ i, (f i).player = i.player) (hflag : ∀ i, (f i).isOwner = i.isOwner) :
    (c.modify who f).Seated present where
  joined := fun k hk => h.joined k (isOn_modify hon ▸ hk)
  banned := fun k hk => h.banned k (isOn_modify hon ▸ hk)
  positive := fun k hk => h.positive k (isOn_modify hon ▸ hk)
  flag := fun k i hi ho => by
    obtain ⟨j, hj, -, hjo⟩ := modify_entry hon hplayer hflag hi
    exact h.flag k j hj (hjo ▸ ho)
  named := fun k i hi => by
    obtain ⟨j, hj, hname, -⟩ := modify_entry hon hplayer hflag hi
    exact hname.trans (h.named k j hj)

theorem Kept.modify (h : c.Kept present) (hon : c.isOn who = true)
    (hplayer : ∀ i, (f i).player = i.player) (hflag : ∀ i, (f i).isOwner = i.isOwner) :
    (c.modify who f).Kept present where
  toSeated := h.toSeated.modify hon hplayer hflag
  owner := h.owner.imp id fun hown => (isOn_modify hon).trans hown
  taken := fun hconst hown ⟨k, hk⟩ => h.taken hconst hown ⟨k, isOn_modify hon ▸ hk⟩
  flagged := fun i hi => by
    obtain ⟨j, hj, -, hjo⟩ := modify_entry hon hplayer hflag hi
    exact hjo.trans (h.flagged j hj)

@[simp] theorem setOwner_ownerGUID : (c.setOwner g).ownerGUID = g := by
  unfold setOwner
  split_ifs <;> rfl

theorem setOwner_frame : (c.setOwner g).channelId = c.channelId ∧
    (c.setOwner g).ownership = c.ownership ∧ (c.setOwner g).banned = c.banned := by
  unfold setOwner
  split_ifs <;> exact ⟨rfl, rfl, rfl⟩

theorem find?_setOwner_ne (hk : k ≠ g) : (c.setOwner g).players.find? k =
    if c.ownerGUID ≠ 0 ∧ k = c.ownerGUID then (c.players.find? k).map (·.setOwner false)
    else c.players.find? k := by
  have hput : ∀ c : Channel, (if g ≠ 0 then
      (c.modify g (·.setModerator true)).modify g (·.setOwner true) else c).players.find? k =
      c.players.find? k := by
    intro c
    split
    · rw [find?_modify, if_neg hk, find?_modify, if_neg hk]
    · rfl
  rw [setOwner, hput]
  by_cases h₀ : c.ownerGUID ≠ 0
  · simp only [if_pos h₀, OrdMap.find?_update]
    split
    · rename_i hown
      rw [if_pos ⟨h₀, hown⟩, hown]
    · rename_i hown
      rw [if_neg fun h => hown h.2]
  · rw [if_neg h₀, if_neg fun h => h₀ h.1]

theorem find?_setOwner_same (hg : g ≠ 0) (h : c.players.find? g = some i) :
    ∃ j, (c.setOwner g).players.find? g = some j ∧ j.player = i.player ∧ j.isOwner = true := by
  have hput : ∀ (c : Channel) (i : PlayerInfo), c.players.find? g = some i →
      ∃ j, (if g ≠ 0 then (c.modify g (·.setModerator true)).modify g (·.setOwner true)
        else c).players.find? g = some j ∧ j.player = i.player ∧ j.isOwner = true := by
    intro c i hi
    rw [if_pos hg, find?_modify, if_pos rfl]
    refine ⟨_, rfl, ?_, PlayerInfo.setOwner_isOwner⟩
    have hinfo : (c.modify g (·.setModerator true)).info g = i.setModerator true := by
      rw [← info_of hi]
      exact info_of (find?_modify.trans (if_pos rfl))
    rw [hinfo]
    rfl
  unfold setOwner
  by_cases h₀ : c.ownerGUID ≠ 0
  · rw [if_pos h₀]
    by_cases hown : g = c.ownerGUID
    · refine hput _ (i.setOwner false) ?_
      simp only [OrdMap.find?_update, if_pos hown]
      rw [← hown, h]
      rfl
    · refine hput _ i ?_
      simp only [OrdMap.find?_update, if_neg hown]
      exact h
  · rw [if_neg h₀]
    exact hput _ i h

theorem isOn_setOwner (hon : c.isOn g = true) (hg : g ≠ 0) : (c.setOwner g).isOn k = c.isOn k := by
  by_cases hk : k = g
  · subst hk
    obtain ⟨i, hi⟩ := isOn_iff.mp hon
    obtain ⟨j, hj, -⟩ := find?_setOwner_same hg hi
    rw [hon]
    exact isOn_iff.mpr ⟨j, hj⟩
  · rw [isOn, isOn, find?_setOwner_ne hk]
    split
    · exact Option.isSome_map
    · rfl

theorem Seated.setOwner (h : c.Seated present) (hon : c.isOn g = true) :
    (c.setOwner g).Kept present := by
  have hg : g ≠ 0 := h.positive g hon
  obtain ⟨i, hi⟩ := isOn_iff.mp hon
  obtain ⟨j, hj, hname, hmark⟩ := find?_setOwner_same hg hi
  have hother : ∀ k m, k ≠ g → (c.setOwner g).players.find? k = some m →
      m.isOwner = false ∧ m.player = k := by
    intro k m hk hm
    rw [find?_setOwner_ne hk] at hm
    split at hm
    · obtain ⟨m', hm', rfl⟩ := Option.map_eq_some_iff.mp hm
      exact ⟨PlayerInfo.setOwner_isOwner, h.named k m' hm'⟩
    · rename_i hown
      refine ⟨?_, h.named k m hm⟩
      cases hmo : m.isOwner with
      | false => rfl
      | true =>
        have hk' := h.flag k m hm hmo
        exact absurd ⟨hk' ▸ h.positive k (isOn_iff.mpr ⟨m, hm⟩), hk'⟩ hown
  exact {
    joined := fun k hk => h.joined k (isOn_setOwner hon hg ▸ hk)
    positive := fun k hk => h.positive k (isOn_setOwner hon hg ▸ hk)
    banned := fun k hk => by
      rw [isBanned, setOwner_frame.2.2]
      exact h.banned k (isOn_setOwner hon hg ▸ hk)
    flag := fun k m hm hmo => by
      rw [setOwner_ownerGUID]
      by_contra hk
      rw [(hother k m hk hm).1] at hmo
      cases hmo
    named := fun k m hm => by
      by_cases hk : k = g
      · subst hk
        rw [hj] at hm
        cases hm
        exact hname.trans (h.named k i hi)
      · exact (hother k m hk hm).2
    owner := .inr (by rw [setOwner_ownerGUID, isOn_setOwner hon hg, hon])
    taken := fun _ _ _ => by rwa [setOwner_ownerGUID]
    flagged := fun m hm => by
      rw [setOwner_ownerGUID, hj] at hm
      cases hm
      exact hmark }

theorem Seated.promote (h : c.Seated present) (hon : c.isOn g = true) :
    ((c.modify g (·.setModerator true)).setOwner g).Kept present :=
  (h.modify (f := (·.setModerator true)) hon (fun _ => rfl)
    fun _ => PlayerInfo.setModerator_isOwner).setOwner ((isOn_modify hon).trans hon)

/-! ## The requests -/

theorem isOn_remove : (c.remove who).isOn k = true ↔ k ≠ who ∧ c.isOn k = true := by
  rw [isOn, isOn, remove, OrdMap.find?_erase]
  split <;> simp_all

theorem Seated.remove (h : c.Seated present) : (c.remove who).Seated (present.erase who) where
  joined := fun k hk => Finset.mem_erase.mpr ((isOn_remove.mp hk).imp id (h.joined k))
  banned := fun k hk => h.banned k (isOn_remove.mp hk).2
  positive := fun k hk => h.positive k (isOn_remove.mp hk).2
  flag := fun k i hi => by
    rw [Channel.remove, OrdMap.find?_erase] at hi
    split at hi
    · cases hi
    · exact h.flag k i hi
  named := fun k i hi => by
    rw [Channel.remove, OrdMap.find?_erase] at hi
    split at hi
    · cases hi
    · exact h.named k i hi

theorem Seated.ban (h : c.Seated present) (hoff : c.isOn g = false) : (c.ban g).Seated present where
  joined := h.joined
  flag := h.flag
  named := h.named
  positive := h.positive
  banned := fun k hk => by
    have hne : k ≠ g := by
      rintro rfl
      exact absurd hoff (by rw [show c.isOn k = true from hk]; nofun)
    have hold := h.banned k hk
    simp only [isBanned, decide_eq_false_iff_not] at hold ⊢
    exact fun hmem => (Finset.mem_insert.mp hmem).elim hne hold

theorem Kept.remove (h : c.Kept present) (hne : who ≠ c.ownerGUID) :
    (c.remove who).Kept (present.erase who) where
  toSeated := h.toSeated.remove
  owner := h.owner.imp id fun hon => isOn_remove.mpr ⟨hne.symm, hon⟩
  taken := fun hconst hown ⟨k, hk⟩ => h.taken hconst hown ⟨k, (isOn_remove.mp hk).2⟩
  flagged := fun i hi => by
    rw [Channel.remove, OrdMap.find?_erase_ne hne.symm] at hi
    exact h.flagged i hi

theorem Kept.ban (h : c.Kept present) (hoff : c.isOn g = false) : (c.ban g).Kept present where
  toSeated := h.toSeated.ban hoff
  owner := h.owner
  taken := h.taken
  flagged := h.flagged

theorem Kept.letIn (h : c.Kept present) (hoff : c.isOn p.guid = false)
    (hban : c.isBanned p.guid = false) : (c.letIn p).Kept (insert p.guid present) := by
  let c' : Channel := { c with players := c.players.set p.guid ⟨p.guid, MEMBER_FLAG_NONE⟩ }
  have hfind : ∀ k, c'.players.find? k =
      if k = p.guid then some ⟨p.guid, MEMBER_FLAG_NONE⟩ else c.players.find? k :=
    fun k => OrdMap.find?_set
  have hnew : c'.isOn p.guid = true := isOn_iff.mpr ⟨_, (hfind _).trans (if_pos rfl)⟩
  have hisOn : ∀ k, c'.isOn k = true → k = p.guid ∨ c.isOn k = true := by
    intro k hk
    obtain ⟨i, hi⟩ := isOn_iff.mp hk
    rw [hfind] at hi
    split at hi
    · exact .inl ‹_›
    · exact .inr (isOn_iff.mpr ⟨i, hi⟩)
  have hseated : c'.Seated (insert p.guid present) := {
    joined := fun k hk =>
      Finset.mem_insert.mpr ((hisOn k hk).imp id (h.joined k))
    banned := fun k hk => by
      rcases hisOn k hk with rfl | hk
      · exact hban
      · exact h.banned k hk
    positive := fun k hk => by
      rcases hisOn k hk with rfl | hk
      · exact p.guid_pos.ne'
      · exact h.positive k hk
    flag := fun k i hi ho => by
      rw [hfind] at hi
      split at hi
      · cases hi
        exact absurd ho (show ¬ (MEMBER_FLAG_NONE &&& MEMBER_FLAG_OWNER != 0) = true by decide)
      · exact h.flag k i hi ho
    named := fun k i hi => by
      rw [hfind] at hi
      split at hi
      · cases hi
        exact Eq.symm ‹_›
      · exact h.named k i hi }
  have hletIn : c.letIn p = if !c'.isConstant && c'.ownerGUID == 0 && c'.ownership then
      (c'.setOwner p.guid).modify p.guid (·.setModerator true) else c' := rfl
  rw [hletIn]
  split
  · have hon : (c'.setOwner p.guid).isOn p.guid = true :=
      (isOn_setOwner hnew p.guid_pos.ne').trans hnew
    exact (hseated.setOwner hnew).modify hon (fun _ => rfl) fun _ =>
      PlayerInfo.setModerator_isOwner
  · rename_i hcond
    have hne : c.ownerGUID ≠ p.guid := by
      intro heq
      rcases h.owner with h₀ | hon
      · exact p.guid_pos.ne' (heq.symm.trans h₀)
      · rw [heq, hoff] at hon
        cases hon
    exact {
      toSeated := hseated
      owner := h.owner.imp id fun hon => by
        obtain ⟨i, hi⟩ := isOn_iff.mp hon
        exact isOn_iff.mpr ⟨i, (hfind _).trans ((if_neg hne).trans hi)⟩
      taken := fun hconst hown _ h₀ => hcond (by simp [hconst, hown, h₀])
      flagged := fun i hi => by
        rw [hfind, if_neg hne] at hi
        exact h.flagged i hi }

theorem isOn_of_joinRefusal {pass : String} (h : c.joinRefusal p cfg pass = none) :
    c.isOn p.guid = false ∧ c.isBanned p.guid = false := by
  unfold joinRefusal at h
  split_ifs at h with hon hban
  exact ⟨Bool.eq_false_iff.mpr hon, Bool.eq_false_iff.mpr hban⟩

theorem Kept.absent (h : c.Kept present) (hoff : c.isOn who = false) :
    c.Kept (present.erase who) where
  toSeated := { h.toSeated with
    joined := fun k hk => by
      refine Finset.mem_erase.mpr ⟨?_, h.joined k hk⟩
      rintro rfl
      rw [hoff] at hk
      cases hk }
  owner := h.owner
  taken := h.taken
  flagged := h.flagged

theorem remove_alone (h : c.alone who = true) : (c.remove who).players.entries = [] :=
  List.filter_eq_nil_iff.mpr fun e he => by
    have heq := List.all_eq_true.mp h e he
    simpa using heq

theorem Kept.leave (h : c.Kept present)
    (hok : p.guid = c.ownerGUID →
      c.isConstant = false ∧ (c.ownership = true ∨ c.alone p.guid = true)) :
    (c.leave p).Kept (present.erase p.guid) ∨
      (c.leave p).players.size = 0 ∧ (c.leave p).isConstant = false := by
  cases hon : c.isOn p.guid with
  | false =>
    rw [Channel.leave, hon]
    exact .inl (h.absent hon)
  | true =>
    obtain ⟨i, hi⟩ := isOn_iff.mp hon
    have hleave : c.leave p = if !c.isConstant && (i.isOwner && c.ownership) then
        (c.remove p.guid).handOver else c.remove p.guid := by
      rw [Channel.leave, if_pos hon, info_of hi]
      rfl
    rw [hleave]
    by_cases hown : p.guid = c.ownerGUID
    · obtain ⟨hconst, hor⟩ := hok hown
      have hempty : (c.remove p.guid).players.entries = [] →
          (c.remove p.guid).players.size = 0 ∧ (c.remove p.guid).isConstant = false :=
        fun hnil => ⟨congrArg List.length hnil, hconst⟩
      rw [hown] at hi
      rw [hconst, h.flagged i hi]
      cases hownership : c.ownership with
      | false => exact .inr (hempty (remove_alone (hor.resolve_left (by simp [hownership]))))
      | true =>
        simp only [Bool.not_false, Bool.and_self, if_true]
        cases hents : (c.remove p.guid).players.entries with
        | nil =>
          rw [handOver, hents]
          exact .inr (hempty hents)
        | cons e rest =>
          obtain ⟨k, j⟩ := e
          have hj : (c.remove p.guid).players.find? k = some j :=
            OrdMap.find?_eq_some.mpr (hents ▸ List.mem_cons_self)
          have hseated : (c.remove p.guid).Seated (present.erase p.guid) := h.toSeated.remove
          have hname : j.player = k := hseated.named k j hj
          rw [handOver, hents]
          simp only [hname]
          exact .inl (hseated.promote (isOn_iff.mpr ⟨j, hj⟩))
    · have hmark : i.isOwner = false := by
        rw [Bool.eq_false_iff]
        exact fun ho => hown (h.flag _ i hi ho)
      rw [hmark, Bool.false_and, Bool.and_false, if_neg Bool.false_ne_true]
      exact .inl (h.remove hown)

theorem asModerator_isOn {u : Unit} (h : c.asModerator p = .ok u) : c.isOn p.guid = true := by
  unfold asModerator at h
  split_ifs at h with hon
  simpa using hon

theorem kickTarget_ok {bad : Option Chatter} (h : c.kickTarget p bad = .ok b) :
    c.isOn p.guid = true ∧ b ∈ bad ∧ c.isOn b.guid = true := by
  cases hmod : c.asModerator p with
  | error e =>
    simp only [kickTarget, hmod, bind, Except.bind] at h
    cases h
  | ok u =>
    refine ⟨asModerator_isOn hmod, ?_⟩
    simp only [kickTarget, hmod, bind, Except.bind] at h
    cases bad with
    | none => cases h
    | some b' =>
      simp only at h
      split_ifs at h with hon
      cases h
      exact ⟨rfl, by simpa using hon⟩

theorem Kept.putOut {isBan : Bool} (h : c.Kept present) (hp : c.isOn p.guid = true)
    (hok : b.guid = c.ownerGUID → c.ownership = true ∧ b.guid ≠ p.guid) :
    (c.putOut p b isBan).Kept (present.erase b.guid) := by
  let c' : Channel := if isBan && !c.isBanned b.guid then (c.remove b.guid).ban b.guid
    else c.remove b.guid
  have hoff : (c.remove b.guid).isOn b.guid = false := by
    rw [Bool.eq_false_iff]
    exact fun hon => (isOn_remove.mp hon).1 rfl
  have hput : c.putOut p b isBan =
      if c.ownerGUID == b.guid && c'.ownership && !c'.players.entries.isEmpty then
        (c'.modify p.guid (·.setModerator true)).setOwner p.guid else c' := by
    unfold Channel.putOut
    by_cases hcond : (isBan && !c.isBanned b.guid) = true
    · simp only [c', if_pos hcond]
      rfl
    · simp only [c', if_neg hcond]
  have hsame : c'.ownership = c.ownership ∧ c'.players = c.players.erase b.guid := by
    by_cases hcond : (isBan && !c.isBanned b.guid) = true
    · simp only [c', if_pos hcond]
      exact ⟨rfl, rfl⟩
    · simp only [c', if_neg hcond]
      exact ⟨rfl, rfl⟩
  rw [hput]
  by_cases hown : b.guid = c.ownerGUID
  · obtain ⟨hownership, hne⟩ := hok hown
    have hseated : c'.Seated (present.erase b.guid) := by
      by_cases hcond : (isBan && !c.isBanned b.guid) = true
      · simp only [c', if_pos hcond]
        exact h.toSeated.remove.ban hoff
      · simp only [c', if_neg hcond]
        exact h.toSeated.remove
    obtain ⟨i, hi⟩ := isOn_iff.mp (isOn_remove.mpr ⟨hne.symm, hp⟩)
    have hon : c'.isOn p.guid = true := by
      rw [isOn, hsame.2]
      exact isOn_iff.mpr ⟨i, hi⟩
    have hmem : (p.guid, i) ∈ c'.players.entries := by
      rw [hsame.2]
      exact OrdMap.find?_eq_some.mp hi
    have hne' : c'.players.entries.isEmpty = false := by
      rw [List.isEmpty_eq_false_iff]
      exact List.ne_nil_of_mem hmem
    rw [hsame.1, hownership, hne', ← hown, beq_self_eq_true]
    exact hseated.promote hon
  · have hkept : c'.Kept (present.erase b.guid) := by
      by_cases hcond : (isBan && !c.isBanned b.guid) = true
      · simp only [c', if_pos hcond]
        exact (h.remove hown).ban hoff
      · simp only [c', if_neg hcond]
        exact h.remove hown
    rw [beq_eq_false_iff_ne.mpr (Ne.symm hown), Bool.false_and, Bool.false_and,
      if_neg Bool.false_ne_true]
    exact hkept

/-- What a request must heed: an owner goes only where someone takes over or no one is left, and
is put out only by another one who takes over. -/
def Orderly (c : Channel) (p : Chatter) : ChannelRequest → Prop
  | .leave => p.guid = c.ownerGUID →
      c.isConstant = false ∧ (c.ownership = true ∨ c.alone p.guid = true)
  | .kick bad | .ban bad => ∀ b ∈ bad, c.kickTarget p bad = .ok b → b.guid = c.ownerGUID →
      c.ownership = true ∧ b.guid ≠ p.guid
  | _ => True

instance (c : Channel) (p : Chatter) (r : ChannelRequest) : Decidable (c.Orderly p r) := by
  cases r <;> unfold Orderly <;> infer_instance

theorem Kept.kickOrBan {bad : Option Chatter} {isBan : Bool} (h : c.Kept present)
    (hok : ∀ b ∈ bad, c.kickTarget p bad = .ok b → b.guid = c.ownerGUID →
      c.ownership = true ∧ b.guid ≠ p.guid) :
    (c.kickOrBan p bad isBan).Kept (c.attend p present (.kick bad)) := by
  simp only [Channel.kickOrBan, attend]
  cases htarget : c.kickTarget p bad with
  | error e => exact h
  | ok b =>
    obtain ⟨hp, hb, -⟩ := kickTarget_ok htarget
    exact h.putOut hp (hok b hb htarget)

theorem Kept.unBan {bad : Option Chatter} (h : c.Kept present) : (c.unBan p bad).Kept present := by
  unfold Channel.unBan
  cases c.unBanTarget p bad with
  | error e => exact h
  | ok b =>
    exact {
      joined := h.joined
      flag := h.flag
      named := h.named
      positive := h.positive
      owner := h.owner
      taken := h.taken
      flagged := h.flagged
      banned := fun k hk => by
        have hold := h.banned k hk
        simp only [isBanned, decide_eq_false_iff_not] at hold ⊢
        exact fun hmem => hold (Finset.mem_of_mem_erase hmem) }

theorem Kept.setPassword {pass : String} (h : c.Kept present) :
    (c.setPassword p pass).Kept present := by
  unfold Channel.setPassword
  cases c.asModerator p with
  | error e => exact h
  | ok u =>
    exact {
      joined := h.joined
      flag := h.flag
      named := h.named
      positive := h.positive
      owner := h.owner
      taken := h.taken
      flagged := h.flagged
      banned := h.banned }

theorem ownerTarget_isOn {newp : Option Chatter} (h : c.ownerTarget p cfg newp = .ok b) :
    c.isOn b.guid = true := by
  cases newp with
  | none =>
    simp only [ownerTarget] at h
    split_ifs at h
  | some n =>
    simp only [ownerTarget] at h
    split_ifs at h with _ _ hon
    cases h
    simpa using hon

theorem Kept.setOwnerByName {newp : Option Chatter} (h : c.Kept present) :
    (c.setOwnerByName p cfg newp).Kept present := by
  unfold Channel.setOwnerByName
  split
  · cases htarget : c.ownerTarget p cfg newp with
    | error e => exact h
    | ok n => exact h.toSeated.promote (ownerTarget_isOn htarget)
  · exact h

theorem modeTarget_isOn {newp : Option Chatter} {mod : Bool}
    (h : c.modeTarget p cfg newp mod = .ok (some b)) : c.isOn b.guid = true := by
  cases hmod : c.asModerator p with
  | error e =>
    simp only [modeTarget, hmod, bind, Except.bind] at h
    cases h
  | ok u =>
    simp only [modeTarget, hmod, bind, Except.bind] at h
    cases newp with
    | none => cases h
    | some n =>
      simp only at h
      split_ifs at h with _ hon <;> cases h
      simpa using hon

theorem Kept.setMode {newp : Option Chatter} {mod set : Bool} (h : c.Kept present) :
    (c.setMode p cfg newp mod set).Kept present := by
  unfold Channel.setMode
  split
  · cases htarget : c.modeTarget p cfg newp mod with
    | error e => exact h
    | ok o =>
      cases o with
      | none => exact h
      | some n =>
        have hon := modeTarget_isOn htarget
        simp only [setModerator, setMute]
        split_ifs
        · exact h.modify hon (fun _ => rfl) fun _ => PlayerInfo.setModerator_isOwner
        · exact h
        · exact h.modify hon (fun _ => rfl) fun _ => PlayerInfo.setMuted_isOwner
        · exact h
  · exact h

theorem Kept.handle {r : ChannelRequest} (h : c.Kept present) (cfg : ChannelConfig)
    (hok : c.Orderly p r) :
    (c.handle cfg p r).Kept (c.attend p present r) ∨
      r = .leave ∧ (c.handle cfg p r).players.size = 0 ∧
        (c.handle cfg p r).isConstant = false := by
  cases r with
  | leave => exact (h.leave hok).imp id fun hempty => ⟨rfl, hempty⟩
  | kick bad => exact .inl (h.kickOrBan hok)
  | ban bad => exact .inl (h.kickOrBan hok)
  | unBan bad => exact .inl h.unBan
  | setOwner newp => exact .inl h.setOwnerByName
  | setMode newp mod set => exact .inl h.setMode
  | password pass => exact .inl h.setPassword

theorem Kept.create {row : Option ChannelRow} {name : String} {channelId team : Nat} :
    (create cfg row name channelId team).Kept present := by
  have hnone : ∀ k, (Channel.create cfg row name channelId team).players.find? k = none := by
    simp
  have hoff : ∀ k, (Channel.create cfg row name channelId team).isOn k ≠ true := by
    simp [isOn]
  exact {
    joined := fun k hk => absurd hk (hoff k)
    positive := fun k hk => absurd hk (hoff k)
    banned := fun k hk => absurd hk (hoff k)
    flag := fun k i hi => by
      rw [hnone] at hi
      cases hi
    named := fun k i hi => by
      rw [hnone] at hi
      cases hi
    flagged := fun i hi => by
      rw [hnone] at hi
      cases hi
    owner := .inl (create_ownerGUID ..)
    taken := fun _ _ ⟨k, hk⟩ => absurd hk (hoff k) }

end Channel

/-!
## All channels

The channels of a manager, over whole runs.
-/

open Channel

namespace ChannelMgr

variable {s : ChannelMgr} {cfg : ChannelConfig} {c : Channel} {name k : String} {p : Chatter}

@[simp] theorem save_channels : (s.save cfg c).channels = s.channels := by
  unfold save
  split <;> rfl

@[simp] theorem addRow_channels : (s.addRow cfg c).channels = s.channels := by
  unfold addRow
  split <;> rfl

theorem put_channels : (s.put cfg name c).channels k =
    if k = cfg.toLower name then some c else s.channels k := by
  simp [put, Function.update_apply]

theorem leftChannel_channels : (s.leftChannel cfg name).channels k =
    if k = cfg.toLower name ∧ (∃ c, s.channels k = some c ∧ c.players.size = 0 ∧
      c.isConstant = false) then none else s.channels k := by
  unfold leftChannel
  cases hc : s.channels (cfg.toLower name) with
  | none =>
    rw [if_neg]
    rintro ⟨rfl, c, hk, -⟩
    rw [hc] at hk
    cases hk
  | some c =>
    simp only
    split
    · rename_i hempty
      by_cases hk : k = cfg.toLower name
      · subst hk
        rw [if_pos ⟨rfl, c, hc, hempty.1, by simpa using hempty.2⟩]
        simp
      · rw [if_neg fun h => hk h.1]
        simp [hk]
    · rename_i hempty
      rw [if_neg]
      rintro ⟨rfl, c', hk, hsize, hconst⟩
      rw [hc] at hk
      cases hk
      exact hempty ⟨hsize, by simp [hconst]⟩

theorem handleJoin_channels {channelId : Nat} {pass : String} {inZone : Bool} :
    (s.handleJoin cfg p name channelId pass inZone).channels k =
      if mayJoin cfg name channelId inZone = true ∧ k = cfg.toLower name then
        some ((s.joinChannel cfg p name channelId).join p cfg pass)
      else s.channels k := by
  unfold handleJoin
  by_cases hmay : mayJoin cfg name channelId inZone = true
  · rw [if_pos hmay]
    simp only [save_channels, put_channels, hmay, true_and]
    split
    · rfl
    · split
      · rw [addRow_channels]
      · rfl
  · rw [if_neg hmay, if_neg fun h => hmay h.1]

end ChannelMgr

namespace ChannelWorld

variable {s : ChannelWorld} {cfg : ChannelConfig} {p : Chatter} {name : String}

def Kept (s : ChannelWorld) : Prop :=
  ∀ k c, s.mgr.channels k = some c → c.Kept (s.present k)

def Orderly (cfg : ChannelConfig) (s : ChannelWorld) : ChannelEvent → Prop
  | .join .. => True
  | .request p name r => ∀ c ∈ s.mgr.channels (cfg.toLower name), c.Orderly p r

instance (s : ChannelWorld) (e : ChannelEvent) : Decidable (Orderly cfg s e) := by
  cases e <;> unfold Orderly <;> infer_instance

theorem Kept.joinChannel (h : s.Kept) (cfg : ChannelConfig) (p : Chatter) (name : String)
    (channelId : Nat) :
    (s.mgr.joinChannel cfg p name channelId).Kept (s.present (cfg.toLower name)) := by
  unfold ChannelMgr.joinChannel
  cases hc : s.mgr.channels (cfg.toLower name) with
  | none => exact .create
  | some c => exact h _ c hc

theorem Kept.join {channelId : Nat} {pass : String} {inZone : Bool} (h : s.Kept) :
    (s.step cfg (.join p name channelId pass inZone)).Kept := by
  intro k c hc
  have hjoin := h.joinChannel cfg p name channelId
  simp only [step, attend, ChannelMgr.step, ChannelMgr.handleJoin_channels] at hc ⊢
  by_cases hmay : ChannelMgr.mayJoin cfg name channelId inZone = true
  · by_cases hk : k = cfg.toLower name
    · subst hk
      rw [if_pos ⟨hmay, rfl⟩, Channel.join] at hc
      cases href : (s.mgr.joinChannel cfg p name channelId).joinRefusal p cfg pass with
      | some notify =>
        rw [href] at hc
        cases hc
        rw [if_neg fun h => nomatch h.2]
        exact hjoin
      | none =>
        rw [href] at hc
        cases hc
        obtain ⟨hoff, hban⟩ := isOn_of_joinRefusal href
        rw [if_pos ⟨hmay, rfl⟩, Function.update_self]
        exact hjoin.letIn hoff hban
    · rw [if_neg fun h => hk h.2] at hc
      split
      · rw [Function.update_of_ne hk]
        exact h k c hc
      · exact h k c hc
  · rw [if_neg fun h => hmay h.1] at hc
    rw [if_neg fun h => hmay h.1]
    exact h k c hc

theorem Kept.request {r : ChannelRequest} (h : s.Kept)
    (hok : Orderly cfg s (.request p name r)) : (s.step cfg (.request p name r)).Kept := by
  intro k c hc
  simp only [step, attend, ChannelMgr.step, ChannelMgr.handleRequest] at hc ⊢
  cases hold : s.mgr.channels (cfg.toLower name) with
  | none =>
    rw [hold] at hc
    exact h k c hc
  | some d =>
    rw [hold] at hc
    simp only at hc ⊢
    let s' := (s.mgr.put cfg name (d.handle cfg p r)).save cfg (d.handle cfg p r)
    have hput : ∀ k, s'.channels k = if k = cfg.toLower name then some (d.handle cfg p r)
        else s.mgr.channels k := by
      intro k
      rw [ChannelMgr.save_channels, ChannelMgr.put_channels]
    have hkept := (h _ d hold).handle cfg (hok d hold)
    -- the channel is still there, and so it is not the empty one that is deleted
    have hthere : s'.channels k = some c ∧ ¬ (k = cfg.toLower name ∧ r = .leave ∧
        (d.handle cfg p r).players.size = 0 ∧ (d.handle cfg p r).isConstant = false) := by
      cases r with
      | leave =>
        rw [ChannelMgr.leftChannel_channels] at hc
        split at hc
        · cases hc
        · rename_i hnone
          refine ⟨hc, fun hgone => hnone ⟨hgone.1, d.handle cfg p .leave, ?_, hgone.2.2⟩⟩
          exact (hput k).trans (if_pos hgone.1)
      | _ => exact ⟨hc, fun hgone => nomatch hgone.2.1⟩
    obtain ⟨hk, hgone⟩ := hthere
    rw [hput] at hk
    split at hk
    · rename_i heq
      subst heq
      cases hk
      rw [Function.update_self]
      exact hkept.resolve_right fun hempty => hgone ⟨rfl, hempty⟩
    · rename_i hne
      rw [Function.update_of_ne hne]
      exact h k c hk

theorem Kept.step {e : ChannelEvent} (h : s.Kept) (hok : Orderly cfg s e) : (s.step cfg e).Kept := by
  cases e with
  | join p name channelId pass inZone => exact h.join
  | request p name r => exact h.request hok

/-- In runs where no owner puts himself out, and none goes or is put out where no one takes over,
every channel is owned at all times. -/
theorem channel_owned (cfg : ChannelConfig) {rows : String × Nat → Option ChannelRow}
    {es : List ChannelEvent} {s : ChannelWorld}
    (hrun : Run (fun s e => s.step cfg e) (Orderly cfg) (start rows) es s)
    {name : String} {c : Channel} (hc : s.mgr.channels (cfg.toLower name) = some c) :
    c.Owned (s.present (cfg.toLower name)) := by
  have hkept : s.Kept := hrun.invariant (fun _ _ h hok => h.step hok) fun k c hc => nomatch hc
  exact (hkept _ c hc).toOwned

def plain : ChannelConfig :=
  { preserveCustomChannels := false, restrictedLfgChannel := false
    twoSideInteractionChannel := false, chatChannels := fun _ => none, toLower := id }

def player (guid : Nat) : Chatter := { guid := guid + 1, guid_pos := Nat.succ_pos guid }

/-- The first of three players makes the second one the owner, who bans him and leaves. -/
def passed : List ChannelEvent :=
  [.join (player 0) "a" 0 "" true, .join (player 1) "a" 0 "" true, .join (player 2) "a" 0 "" true,
    .request (player 0) "a" (.setOwner (some (player 1))),
    .request (player 1) "a" (.ban (some (player 0))), .request (player 1) "a" .leave]

theorem channel_owned_passed :
    let s := passed.foldl (fun s e => s.step plain e) (start fun _ => none)
    (s.mgr.channels "a").isSome = true ∧
      ∀ c, s.mgr.channels "a" = some c → c.Owned (s.present "a") :=
  ⟨by decide +kernel, fun c hc =>
    channel_owned plain (Admitted.run (by decide +kernel)) hc⟩

def selfBan : List ChannelEvent :=
  [.join (player 0) "a" 0 "" true, .join (player 1) "a" 0 "" true,
    .request (player 0) "a" (.ban (some (player 0)))]

/-- He is a member again, and banned. -/
theorem channel_owned_selfBan : ¬ ∀ (cfg : ChannelConfig) (rows : String × Nat → Option ChannelRow)
    (es : List ChannelEvent) (s : ChannelWorld),
    Run (fun s e => s.step cfg e) (fun _ _ => True) (start rows) es s →
    ∀ name c, s.mgr.channels (cfg.toLower name) = some c →
      c.Owned (s.present (cfg.toLower name)) := by
  intro hall
  let s := selfBan.foldl (fun s e => s.step plain e) (start fun _ => none)
  have hrun := hall plain (fun _ => none) selfBan s (.free selfBan) "a"
  have hsome : (s.mgr.channels "a").any (fun c => c.isOn 1 && c.isBanned 1) = true := by
    decide +kernel
  obtain ⟨c, hc, hboth⟩ := (Option.any_eq_true _ _).mp hsome
  obtain ⟨hon, hban⟩ := Bool.and_eq_true_iff.mp hboth
  have hfree := (hrun c hc).banned 1 hon
  rw [hban] at hfree
  cases hfree

end ChannelWorld

end SkyfireBG
