import SkyfireBG.Battleground.Arathi

/-!
# SkyfireBG.Battleground.Nodes

What holds of the control points of Arathi Basin over a whole battle.

* `Reached.nodes_inOrder` — timers, banners, rewards, scores and the end of the battle.
-/

namespace SkyfireBG

namespace BattlegroundAB

variable {s s' : BattlegroundAB} {i j : BasinNode} {t : Team} {diff : Nat}

@[simp] theorem index_alliance : Team.index .alliance = 0 := rfl

@[simp] theorem index_horde : Team.index .horde = 1 := rfl

theorem index_le (t : Team) : t.index ≤ 1 := by cases t <;> simp

theorem index_inj {t u : Team} (h : t.index = u.index) : t = u := by
  cases t <;> cases u <;> simp_all

theorem index_other (t : Team) : t.other.index = 1 - t.index := by cases t <;> rfl

/-! ## One node -/

/-- The place of the aura that belongs to a node in state `n`; a neutral node has none. -/
def auraOf (n : Nat) : Nat := if n = 0 then 8 else if n ≤ 2 then 7 else n + 2

/-- The banners that `_CreateBanner` and `_DelBanner` are asked for. -/
def Banner (type teamIndex : Nat) : Prop :=
  type = 0 ∧ teamIndex = 0 ∨ type = 1 ∧ teamIndex ≤ 1 ∨ type = 3 ∧ teamIndex ≤ 1

structure Standing (s : BattlegroundAB) (i : BasinNode) : Prop where
  state : s.nodes i ≤ 4
  timer : (s.nodes i = 1 ∨ s.nodes i = 2) ↔ s.nodeTimers i ≠ 0
  prev : ∀ t : Team, s.nodes i = t.index + 1 → s.prevNodes i ≠ t.index + 3
  prev_le : s.prevNodes i ≤ 4
  pending : (s.bannerTimers i).timer ≠ 0 →
    Banner (s.bannerTimers i).type (s.bannerTimers i).teamIndex ∧
      (s.bannerTimers i).type + (s.bannerTimers i).teamIndex = s.nodes i
  shown : ∀ k, k < 8 → (s.shown (i * 8 + k) = true ↔
    (s.bannerTimers i).timer = 0 ∧ (k = s.nodes i ∨ k = auraOf (s.nodes i)))

theorem Opened.standing (h : s.Opened) (i : BasinNode) : s.Standing i where
  state := by simp [h.nodes]
  timer := by simp [h.nodes, h.timers]
  prev t ht := by simp [h.nodes] at ht
  prev_le := by simp [h.prevNodes]
  pending hp := absurd (h.banners i) hp
  shown k hk := by
    rw [h.shown i k hk, h.banners, h.nodes]
    simp [auraOf]
    omega

theorem Standing.congr (h : s.Standing i) (hn : s'.nodes i = s.nodes i)
    (hp : s'.prevNodes i = s.prevNodes i) (ht : s'.nodeTimers i = s.nodeTimers i)
    (hb : s'.bannerTimers i = s.bannerTimers i)
    (hs : ∀ k, k < 8 → s'.shown (i * 8 + k) = s.shown (i * 8 + k)) : s'.Standing i where
  state := hn ▸ h.state
  timer := by rw [hn, ht]; exact h.timer
  prev := by rw [hn, hp]; exact h.prev
  prev_le := hp ▸ h.prev_le
  pending := by rw [hn, hb]; exact h.pending
  shown k hk := by rw [hn, hb, hs k hk]; exact h.shown k hk

theorem node_object_ne (hij : i ≠ j) {k l : Nat} (hk : k < 8) (hl : l < 8) :
    (i : Nat) * 8 + k ≠ j * 8 + l := by
  have : (i : Nat) ≠ j := fun h => hij (Fin.ext h)
  omega

theorem bannerObject_eq (i : BasinNode) (type teamIndex : Nat) :
    bannerObject i type teamIndex = i * 8 + (type + teamIndex) := Nat.add_assoc _ _ _

theorem auraObject_eq {type teamIndex : Nat} (h : Banner type teamIndex) (ht : type ≠ 0)
    (i : BasinNode) : auraObject i type teamIndex = i * 8 + auraOf (type + teamIndex) := by
  unfold auraObject auraOf BG_AB_NODE_TYPE_OCCUPIED
  rcases h with ⟨h, -⟩ | ⟨h, hle⟩ | ⟨h, hle⟩
  · exact absurd h ht
  · subst h
    simp
    omega
  · subst h
    simp [show ¬ 3 + teamIndex ≤ 2 by omega]
    omega

theorem spawnBanner_shown {type teamIndex : Nat} (h : Banner type teamIndex) (i : BasinNode)
    (spawned : Bool) (o : Nat) :
    let s' := s.spawnBGObject (bannerObject i type teamIndex) spawned
    (if type = 0 then s' else s'.spawnBGObject (auraObject i type teamIndex) spawned).shown o =
      if o = i * 8 + (type + teamIndex) ∨ type ≠ 0 ∧ o = i * 8 + auraOf (type + teamIndex) then spawned
      else s.shown o := by
  unfold spawnBGObject
  dsimp only
  rw [bannerObject_eq]
  by_cases ht : type = 0
  · simp [ht, Function.update_apply]
  · rw [if_neg ht, auraObject_eq h ht]
    simp only [Function.update_apply, ht, ne_eq, not_false_eq_true, true_and]
    split_ifs <;> simp_all

theorem delBanner_shown {type teamIndex : Nat} (h : Banner type teamIndex) (i : BasinNode)
    (o : Nat) : (s.delBanner i type teamIndex).shown o =
      if o = i * 8 + (type + teamIndex) ∨ type ≠ 0 ∧ o = i * 8 + auraOf (type + teamIndex) then false
      else s.shown o := spawnBanner_shown h i false o

theorem createBanner_shown {type teamIndex : Nat} (h : Banner type teamIndex) (i : BasinNode)
    (o : Nat) : (s.createBanner i type teamIndex false).shown o =
      if o = i * 8 + (type + teamIndex) ∨ type ≠ 0 ∧ o = i * 8 + auraOf (type + teamIndex) then true
      else s.shown o := spawnBanner_shown h i true o

theorem delBanner_eq (i : BasinNode) (type teamIndex : Nat) :
    s.delBanner i type teamIndex = { s with shown := (s.delBanner i type teamIndex).shown } := by
  unfold delBanner spawnBGObject
  dsimp only
  split <;> rfl

theorem createBanner_eq (i : BasinNode) (type teamIndex : Nat) :
    s.createBanner i type teamIndex false =
      { s with shown := (s.createBanner i type teamIndex false).shown } := by
  unfold createBanner spawnBGObject
  dsimp only
  rw [if_neg (by simp)]
  split <;> rfl

theorem delBanner_congr (h : s'.shown = s.shown) (i : BasinNode) (type teamIndex : Nat) :
    (s'.delBanner i type teamIndex).shown = (s.delBanner i type teamIndex).shown := by
  unfold delBanner spawnBGObject
  dsimp only
  split <;> simp only [h]

theorem changeNode_eq (i : BasinNode) (value delType delTeam newType newTeam : Nat) :
    s.changeNode i value delType delTeam newType newTeam =
      { s with
        prevNodes := Function.update s.prevNodes i (s.nodes i),
        nodes := Function.update s.nodes i value,
        bannerTimers := Function.update s.bannerTimers i ⟨2000, newType, newTeam⟩,
        shown := (s.delBanner i delType delTeam).shown,
        occupiedBases := fun t => countNodes fun j =>
          decide (Function.update s.nodes i value j = t.index + BG_AB_NODE_TYPE_OCCUPIED) } := by
  have hdel : ∀ s₁ : BattlegroundAB, s₁.shown = s.shown → s₁.delBanner i delType delTeam =
      { s₁ with shown := (s.delBanner i delType delTeam).shown } := by
    intro s₁ h
    rw [← delBanner_congr h]
    exact delBanner_eq i delType delTeam
  unfold changeNode
  dsimp only
  rw [hdel { s with
    prevNodes := Function.update s.prevNodes i (s.nodes i),
    nodes := Function.update s.nodes i value } rfl]
  rfl

theorem banner_ne {type teamIndex : Nat} (h : Banner type teamIndex) (hij : i ≠ j) {k : Nat}
    (hk : k < 8) : ¬(j * 8 + k = i * 8 + (type + teamIndex) ∨
      type ≠ 0 ∧ j * 8 + k = i * 8 + auraOf (type + teamIndex)) := by
  have hlt : type + teamIndex < 8 ∧ (type ≠ 0 → auraOf (type + teamIndex) < 8) := by
    unfold auraOf
    rcases h with h | h | h <;> split_ifs <;> omega
  rintro (hb | ⟨ht, ha⟩)
  · exact node_object_ne hij.symm hk hlt.1 hb
  · exact node_object_ne hij.symm hk (hlt.2 ht) ha

theorem delBanner_other {type teamIndex : Nat} (h : Banner type teamIndex) (hij : i ≠ j) {k : Nat}
    (hk : k < 8) : (s.delBanner i type teamIndex).shown (j * 8 + k) = s.shown (j * 8 + k) := by
  rw [delBanner_shown h, if_neg (banner_ne h hij hk)]

theorem createBanner_other {type teamIndex : Nat} (h : Banner type teamIndex) (hij : i ≠ j)
    {k : Nat} (hk : k < 8) :
    (s.createBanner i type teamIndex false).shown (j * 8 + k) = s.shown (j * 8 + k) := by
  rw [createBanner_shown h, if_neg (banner_ne h hij hk)]

/-- What a node is changed to: the banner to burn, the banner to queue, the new timer. -/
structure Change (s : BattlegroundAB) (i : BasinNode)
    (delType delTeam newType newTeam timer : Nat) : Prop where
  del : Banner delType delTeam
  old : delType + delTeam = s.nodes i
  new : Banner newType newTeam
  type : newType ≠ 0
  timer : newType = 1 ↔ timer ≠ 0
  prev : ∀ t : Team, newType + newTeam = t.index + 1 → s.nodes i ≠ t.index + 3

variable {delType delTeam newType newTeam timer : Nat}

theorem Change.standing (hc : Change s i delType delTeam newType newTeam timer)
    (h : s.Standing i) (hn : s'.nodes = Function.update s.nodes i (newType + newTeam))
    (hp : s'.prevNodes = Function.update s.prevNodes i (s.nodes i))
    (ht : s'.nodeTimers = Function.update s.nodeTimers i timer)
    (hb : s'.bannerTimers = Function.update s.bannerTimers i ⟨2000, newType, newTeam⟩)
    (hs : s'.shown = (s.delBanner i delType delTeam).shown) : s'.Standing i := by
  have hnew : newType = 1 ∧ newTeam ≤ 1 ∨ newType = 3 ∧ newTeam ≤ 1 := by
    rcases hc.new with ⟨h0, -⟩ | h1
    · exact absurd h0 hc.type
    · exact h1
  constructor
  · rw [hn, Function.update_self]
    omega
  · rw [hn, ht, Function.update_self, Function.update_self, ← hc.timer]
    omega
  · intro t he
    rw [hn, Function.update_self] at he
    rw [hp, Function.update_self]
    exact hc.prev t he
  · rw [hp, Function.update_self]
    exact h.state
  · intro _
    rw [hb, hn, Function.update_self, Function.update_self]
    exact ⟨hc.new, rfl⟩
  · intro k hk
    rw [hs, hb, Function.update_self, delBanner_shown hc.del, hc.old]
    have hold := h.shown k hk
    have hzero : delType = 0 → auraOf (s.nodes i) = 8 := by
      rintro rfl
      have hnode : s.nodes i = 0 := by
        have := hc.old
        rcases hc.del with ⟨-, h0⟩ | ⟨h1, -⟩ | ⟨h1, -⟩ <;> omega
      simp [hnode, auraOf]
    split
    · simp
    · rename_i hne
      rw [hold]
      constructor
      · rintro ⟨-, rfl | rfl⟩
        · exact absurd (.inl rfl) hne
        · by_cases hd : delType = 0
          · have := hzero hd
            omega
          · exact absurd (.inr ⟨hd, rfl⟩) hne
      · rintro ⟨h0, -⟩
        cases h0

theorem Change.other (hc : Change s i delType delTeam newType newTeam timer) (hij : i ≠ j)
    (h : s.Standing j) {value : Nat} (hn : s'.nodes = Function.update s.nodes i value)
    (hp : s'.prevNodes = Function.update s.prevNodes i (s.nodes i))
    (ht : s'.nodeTimers = Function.update s.nodeTimers i timer)
    (hb : s'.bannerTimers = Function.update s.bannerTimers i ⟨2000, newType, newTeam⟩)
    (hs : s'.shown = (s.delBanner i delType delTeam).shown) : s'.Standing j :=
  h.congr (by rw [hn, Function.update_of_ne hij.symm]) (by rw [hp, Function.update_of_ne hij.symm])
    (by rw [ht, Function.update_of_ne hij.symm]) (by rw [hb, Function.update_of_ne hij.symm])
    fun k hk => by rw [hs, delBanner_other hc.del hij hk]

theorem Change.all (hc : Change s i delType delTeam newType newTeam timer)
    (h : ∀ j, s.Standing j) (hn : s'.nodes = Function.update s.nodes i (newType + newTeam))
    (hp : s'.prevNodes = Function.update s.prevNodes i (s.nodes i))
    (ht : s'.nodeTimers = Function.update s.nodeTimers i timer)
    (hb : s'.bannerTimers = Function.update s.bannerTimers i ⟨2000, newType, newTeam⟩)
    (hs : s'.shown = (s.delBanner i delType delTeam).shown) (j : BasinNode) : s'.Standing j := by
  by_cases hij : i = j
  · subst hij
    exact hc.standing (h i) hn hp ht hb hs
  · exact hc.other hij (h j) hn hp ht hb hs

theorem updateBanner_eq (diff : Nat) (i : BasinNode) :
    s.updateBanner diff i =
      { s with
        bannerTimers := (s.updateBanner diff i).bannerTimers,
        shown := (s.updateBanner diff i).shown } := by
  unfold updateBanner
  dsimp only
  split
  · rfl
  · split
    · rfl
    · rw [createBanner_eq]

theorem Standing.waits (h : s.Standing i) (h0 : (s.bannerTimers i).timer ≠ 0) {n : Nat} (hn : n ≠ 0)
    (hnodes : s'.nodes = s.nodes) (hprev : s'.prevNodes = s.prevNodes)
    (htimers : s'.nodeTimers = s.nodeTimers)
    (hb : s'.bannerTimers i = { s.bannerTimers i with timer := n }) (hs : s'.shown = s.shown) :
    s'.Standing i where
  state := by rw [hnodes]; exact h.state
  timer := by rw [hnodes, htimers]; exact h.timer
  prev := by rw [hnodes, hprev]; exact h.prev
  prev_le := by rw [hprev]; exact h.prev_le
  pending := by rw [hb, hnodes]; exact fun _ => h.pending h0
  shown k hk := by
    rw [hs, hb, h.shown k hk]
    simp [h0, hn]

theorem Standing.shows (h : s.Standing i) (h0 : (s.bannerTimers i).timer ≠ 0)
    (hnodes : s'.nodes = s.nodes) (hprev : s'.prevNodes = s.prevNodes)
    (htimers : s'.nodeTimers = s.nodeTimers)
    (hb : s'.bannerTimers i = { s.bannerTimers i with timer := 0 })
    (hs : ∀ o, s'.shown o = if o = i * 8 + s.nodes i ∨ (s.bannerTimers i).type ≠ 0 ∧
      o = i * 8 + auraOf (s.nodes i) then true else s.shown o) : s'.Standing i where
  state := by rw [hnodes]; exact h.state
  timer := by rw [hnodes, htimers]; exact h.timer
  prev := by rw [hnodes, hprev]; exact h.prev
  prev_le := by rw [hprev]; exact h.prev_le
  pending := by rw [hb]; exact fun hp => absurd rfl hp
  shown k hk := by
    obtain ⟨hbanner, hnode⟩ := h.pending h0
    have hzero : (s.bannerTimers i).type = 0 → auraOf (s.nodes i) = 8 := by
      intro ht
      have hn : s.nodes i = 0 := by
        rcases hbanner with ⟨-, h1⟩ | ⟨h1, -⟩ | ⟨h1, -⟩ <;> omega
      simp [hn, auraOf]
    have hold := h.shown k hk
    rw [hs, hb, hnodes]
    split
    · rename_i hk'
      have hat : k = s.nodes i ∨ k = auraOf (s.nodes i) := by omega
      simp [hat]
    · rename_i hk'
      rw [hold]
      constructor
      · rintro ⟨hz, -⟩
        exact absurd hz h0
      · rintro ⟨-, rfl | rfl⟩
        · exact absurd (.inl rfl) hk'
        · by_cases ht : (s.bannerTimers i).type = 0
          · have := hzero ht
            omega
          · exact absurd (.inr ⟨ht, rfl⟩) hk'

theorem updateBanner_standing (h : ∀ j, s.Standing j) (i j : BasinNode) :
    (s.updateBanner diff i).Standing j := by
  unfold updateBanner
  dsimp only
  by_cases h0 : (s.bannerTimers i).timer = 0
  · rw [if_pos h0]
    exact h j
  rw [if_neg h0]
  obtain ⟨hbanner, hnode⟩ := (h i).pending h0
  by_cases hlt : diff < (s.bannerTimers i).timer
  · rw [if_pos hlt]
    by_cases hij : j = i
    · subst hij
      exact (h j).waits h0 (n := (s.bannerTimers j).timer - diff) (by omega) rfl rfl rfl
        (Function.update_self ..) rfl
    · exact (h j).congr rfl rfl rfl (Function.update_of_ne hij ..) fun _ _ => rfl
  · rw [if_neg hlt, createBanner_eq]
    by_cases hij : j = i
    · subst hij
      refine (h j).shows h0 rfl rfl rfl (Function.update_self ..) fun o => ?_
      rw [createBanner_shown hbanner, hnode]
    · exact (h j).congr rfl rfl rfl (Function.update_of_ne hij ..)
        fun k hk => createBanner_other hbanner (Ne.symm hij) hk

/-- A node changed, its banners exchanged and its timer set; everything else as it was. -/
structure Changed (s s' : BattlegroundAB) (i : BasinNode)
    (delType delTeam newType newTeam timer : Nat) : Prop where
  nodes : s'.nodes = Function.update s.nodes i (newType + newTeam)
  prevNodes : s'.prevNodes = Function.update s.prevNodes i (s.nodes i)
  timers : s'.nodeTimers = Function.update s.nodeTimers i timer
  banners : s'.bannerTimers = Function.update s.bannerTimers i ⟨2000, newType, newTeam⟩
  shown : s'.shown = (s.delBanner i delType delTeam).shown
  base : s'.toBattleground = s.toBattleground
  scores : s'.teamScores = s.teamScores
  lastTick : s'.lastTick = s.lastTick
  casts : s'.casts = s.casts
  occupations : s'.occupations = s.occupations

theorem changeNode_setNodeTimer {value : Nat} (hv : value = newType + newTeam) (i : BasinNode) :
    Changed s ((s.changeNode i value delType delTeam newType newTeam).setNodeTimer i timer) i
      delType delTeam newType newTeam timer := by
  rw [changeNode_eq, hv]
  exact ⟨rfl, rfl, rfl, rfl, rfl, rfl, rfl, rfl, rfl, rfl⟩

theorem setNodeTimer_changeNode {value : Nat} (hv : value = newType + newTeam) (i : BasinNode) :
    Changed s ((s.setNodeTimer i timer).changeNode i value delType delTeam newType newTeam) i
      delType delTeam newType newTeam timer := by
  have hshown : (s.setNodeTimer i timer).shown = s.shown := rfl
  rw [changeNode_eq, hv]
  exact ⟨rfl, rfl, rfl, rfl, delBanner_congr hshown .., rfl, rfl, rfl, rfl, rfl⟩

theorem Changed.standing (hd : Changed s s' i delType delTeam newType newTeam timer)
    (hc : Change s i delType delTeam newType newTeam timer) (h : ∀ j, s.Standing j) (j : BasinNode) :
    s'.Standing j :=
  hc.all h hd.nodes hd.prevNodes hd.timers hd.banners hd.shown j

def rewards (o : Occupation) : List (Nat × Team) :=
  (if 4 ≤ o.held then [(SPELL_AB_QUEST_REWARD_4_BASES, o.team)] else []) ++
    if 5 ≤ o.held then [(SPELL_AB_QUEST_REWARD_5_BASES, o.team)] else []

def Paid (s : BattlegroundAB) : Prop := s.casts = s.occupations.flatMap rewards

def settled (s : BattlegroundAB) : Nat := countNodes fun j => decide (s.nodeTimers j = 0)

def Rewarding (settled held : Nat) : Prop :=
  (4 ≤ settled → 4 ≤ held) ∧ (5 ≤ settled → 5 ≤ held)

instance (m n : Nat) : Decidable (Rewarding m n) := by
  unfold Rewarding
  infer_instance

theorem countNodes_mono {p q : BasinNode → Bool} (h : ∀ j, p j = true → q j = true) :
    countNodes p ≤ countNodes q :=
  List.countP_mono_left fun j _ => h j

theorem countNodes_congr {p q : BasinNode → Bool} (h : ∀ j, p j = q j) :
    countNodes p = countNodes q := congrArg countNodes (funext h)

theorem held_le_settled (h : ∀ j, s.Standing j) (t : Team) : s.held t ≤ s.settled := by
  refine countNodes_mono fun j hj => ?_
  have hn : s.nodes j = t.index + 3 := of_decide_eq_true hj
  have hfree : ¬ (s.nodes j = 1 ∨ s.nodes j = 2) := by omega
  rw [(h j).timer, not_not] at hfree
  exact decide_eq_true hfree

theorem nodeOccupied_standing (h : ∀ j, s.Standing j) (i j : BasinNode) (t : Team) :
    (s.nodeOccupied i t).Standing j :=
  (h j).congr rfl rfl rfl rfl fun _ _ => rfl

theorem Paid.nodeOccupied (h : s.Paid) (hn : s.nodes i = t.index + 3)
    (hle : s.held t ≤ s.settled) (hf : Rewarding s.settled (s.held t)) :
    (s.nodeOccupied i t).Paid := by
  have hcount : (countNodes fun j => decide (s.nodes i = t.index + BG_AB_NODE_TYPE_OCCUPIED ∧
      s.nodeTimers j = 0)) = s.settled :=
    countNodes_congr fun j => by simp [hn, BG_AB_NODE_TYPE_OCCUPIED]
  have h4 : 4 ≤ s.settled ↔ 4 ≤ s.held t := ⟨hf.1, fun h => h.trans hle⟩
  have h5 : 5 ≤ s.settled ↔ 5 ≤ s.held t := ⟨hf.2, fun h => h.trans hle⟩
  unfold Paid BattlegroundAB.nodeOccupied
  dsimp only
  rw [hcount, h, List.flatMap_cons, rewards]
  simp only [h4, h5]

def expires (s : BattlegroundAB) (diff : Nat) (i : BasinNode) : Bool :=
  decide (s.nodeTimers i ≠ 0 ∧ s.nodeTimers i ≤ diff)

theorem expires_iff : s.expires diff i = true ↔ s.nodeTimers i ≠ 0 ∧ s.nodeTimers i ≤ diff := by
  simp [expires]

theorem Standing.contested (h : s.Standing i) (ht : s.nodeTimers i ≠ 0) :
    ∃ t : Team, s.nodes i = t.index + 1 := by
  rcases h.timer.mpr ht with hn | hn
  · exact ⟨.alliance, hn⟩
  · exact ⟨.horde, hn⟩

theorem updateTimer_expires (ht : s.expires diff i = true) (hn : s.nodes i = t.index + 1) :
    ∃ s₁, Changed s s₁ i 1 t.index 3 t.index 0 ∧ s.updateTimer diff i = s₁.nodeOccupied i t := by
  obtain ⟨hne, hle⟩ := expires_iff.mp ht
  refine ⟨_, setNodeTimer_changeNode rfl i, ?_⟩
  unfold updateTimer
  dsimp only
  rw [if_neg hne, if_neg (by omega)]
  have hindex : (s.nodes i + 255) % 256 = t.index := by
    have := index_le t
    omega
  have hteam : (if t.index = 0 then Team.alliance else .horde) = t := by cases t <;> simp
  have hvalue : s.nodes i + 2 = 3 + t.index := by omega
  rw [hindex, hteam, hvalue]
  rfl

theorem updateTimer_waits (ht : s.expires diff i = false) : s.updateTimer diff i =
    { s with nodeTimers := Function.update s.nodeTimers i (s.nodeTimers i - diff) } := by
  have hnot : ¬ (s.nodeTimers i ≠ 0 ∧ s.nodeTimers i ≤ diff) := by
    rw [← expires_iff, ht]
    simp
  unfold updateTimer setNodeTimer
  dsimp only
  by_cases h0 : s.nodeTimers i = 0
  · rw [if_pos h0, h0, Nat.zero_sub, ← h0, Function.update_eq_self]
  · rw [if_neg h0, if_pos (by omega)]

theorem Change.occupies (hn : s.nodes i = t.index + 1) :
    Change s i 1 t.index 3 t.index 0 where
  del := .inr (.inl ⟨rfl, index_le t⟩)
  old := by omega
  new := .inr (.inr ⟨rfl, index_le t⟩)
  type := by simp
  timer := by simp
  prev u hu := by
    have := index_le u
    omega

theorem updateTimer_standing (h : ∀ j, s.Standing j) (i j : BasinNode) :
    (s.updateTimer diff i).Standing j := by
  cases ht : s.expires diff i with
  | true =>
    obtain ⟨t, hn⟩ := (h i).contested (expires_iff.mp ht).1
    obtain ⟨s₁, hd, heq⟩ := updateTimer_expires ht hn
    rw [heq]
    exact nodeOccupied_standing (hd.standing (.occupies hn) h) i j t
  | false =>
    rw [updateTimer_waits ht]
    by_cases hij : j = i
    · subst hij
      have hnot : ¬ (s.nodeTimers j ≠ 0 ∧ s.nodeTimers j ≤ diff) := by
        rw [← expires_iff, ht]
        simp
      refine ⟨(h j).state, ?_, (h j).prev, (h j).prev_le, (h j).pending, (h j).shown⟩
      rw [(h j).timer]
      simp only [Function.update_self]
      omega
    · exact (h j).congr rfl rfl (Function.update_of_ne hij ..) rfl fun _ _ => rfl

/-- The nodes without a timer, once the nodes of `freed` have lost theirs. -/
def settledAfter (s : BattlegroundAB) (freed : BasinNode → Bool) : Nat :=
  countNodes fun j => decide (s.nodeTimers j = 0) || freed j

/-- The nodes of a team, once it occupies those of `won`. -/
def heldAfter (s : BattlegroundAB) (t : Team) (won : BasinNode → Bool) : Nat :=
  countNodes fun j => decide (s.nodes j = t.index + 3) || won j

def Defends (s : BattlegroundAB) (t : Team) (i : BasinNode) : Prop :=
  s.nodes i = t.other.index + 1 ∧ s.prevNodes i = t.index + 3

instance (t : Team) (i : BasinNode) : Decidable (s.Defends t i) := by
  unfold Defends
  infer_instance

theorem click_cases (h : ∀ j, s.Standing j) (near : BasinNode → Bool) :
    s.eventPlayerClickedOnFlag t near = s ∨
      ∃ i, clickedNode near = some i ∧
        ((∃ delType delTeam, Change s i delType delTeam 1 t.index BG_AB_FLAG_CAPTURING_TIME ∧
            Changed s (s.eventPlayerClickedOnFlag t near) i delType delTeam 1 t.index
              BG_AB_FLAG_CAPTURING_TIME) ∨
          s.Defends t i ∧ ∃ s₁, Change s i 1 t.other.index 3 t.index 0 ∧
            Changed s s₁ i 1 t.other.index 3 t.index 0 ∧
            s.eventPlayerClickedOnFlag t near = s₁.nodeOccupied i t) := by
  unfold eventPlayerClickedOnFlag
  split
  · exact .inl rfl
  cases hi : clickedNode near with
  | none => exact .inl rfl
  | some i =>
    dsimp only
    by_cases hmay : s.nodes i = 0 ∨ t.index = s.nodes i % 2
    · rw [if_neg (not_not.mpr hmay)]
      refine .inr ⟨i, rfl, ?_⟩
      have hle := (h i).state
      have hprev := (h i).prev t.other
      have hprevle := (h i).prev_le
      have hother := index_other t
      have ht := index_le t
      have hnew : Banner 1 t.index := .inr (.inl ⟨rfl, ht⟩)
      have hfree : ∀ u : Team, 1 + t.index = u.index + 1 → u = t := fun u hu => index_inj (by omega)
      by_cases h0 : s.nodes i = BG_AB_NODE_TYPE_NEUTRAL
      · rw [if_pos h0]
        unfold BG_AB_NODE_TYPE_NEUTRAL at h0
        refine .inl ⟨_, _, ⟨.inl ⟨rfl, rfl⟩, by omega, hnew, by simp,
          by simp [BG_AB_FLAG_CAPTURING_TIME], fun u _ => by omega⟩,
          changeNode_setNodeTimer (Nat.add_comm _ _) i⟩
      · rw [if_neg h0]
        unfold BG_AB_NODE_TYPE_NEUTRAL at h0
        by_cases hc : s.nodes i = 1 ∨ s.nodes i = 2
        · rw [if_pos hc]
          have hnode : s.nodes i = t.other.index + 1 := by omega
          have hdel : Banner 1 t.other.index := .inr (.inl ⟨rfl, index_le _⟩)
          by_cases hp : s.prevNodes i < BG_AB_NODE_TYPE_OCCUPIED
          · rw [if_pos hp]
            exact .inl ⟨_, _, ⟨hdel, by omega, hnew, by simp, by simp [BG_AB_FLAG_CAPTURING_TIME],
              fun u _ => by omega⟩, changeNode_setNodeTimer (Nat.add_comm _ _) i⟩
          · rw [if_neg hp]
            unfold BG_AB_NODE_TYPE_OCCUPIED at hp
            have hback : s.prevNodes i = t.index + 3 := by
              have := hprev hnode
              omega
            refine .inr ⟨⟨hnode, hback⟩, _, ⟨hdel, by omega, .inr (.inr ⟨rfl, ht⟩), by simp, by simp,
              fun u hu => by have := index_le u; omega⟩,
              changeNode_setNodeTimer (Nat.add_comm _ _) i, rfl⟩
        · rw [if_neg hc]
          have hnode : s.nodes i = t.other.index + 3 := by omega
          refine .inl ⟨_, _, ⟨.inr (.inr ⟨rfl, index_le _⟩), by omega, hnew, by simp,
            by simp [BG_AB_FLAG_CAPTURING_TIME], fun u hu => ?_⟩,
            changeNode_setNodeTimer (Nat.add_comm _ _) i⟩
          rw [hfree u hu]
          omega
    · rw [if_pos hmay]
      exact .inl rfl

theorem Changed.settled_held (hd : Changed s s' i delType delTeam 3 t.index 0) :
    s'.settled = s.settledAfter (fun j => decide (j = i)) ∧
      s'.held t = s.heldAfter t (fun j => decide (j = i)) := by
  constructor
  · refine countNodes_congr fun j => ?_
    rw [hd.timers]
    by_cases hj : j = i
    · subst hj
      simp
    · simp [hj]
  · refine countNodes_congr fun j => ?_
    rw [hd.nodes]
    by_cases hj : j = i
    · subst hj
      simp [BG_AB_NODE_TYPE_OCCUPIED, Nat.add_comm]
    · simp [hj, BG_AB_NODE_TYPE_OCCUPIED]

/-! ## The loop over the nodes -/

/-- The nodes of `done` whose capture ends. -/
def freedIn (s : BattlegroundAB) (diff : Nat) (done : List BasinNode) (j : BasinNode) : Bool :=
  decide (j ∈ done) && s.expires diff j

def wonIn (s : BattlegroundAB) (t : Team) (diff : Nat) (done : List BasinNode) (j : BasinNode) :
    Bool :=
  s.freedIn diff done j && decide (s.nodes j = t.index + 1)

/-- Where the loop stands after the nodes of `done`. -/
structure Progress (s : BattlegroundAB) (diff : Nat) (done : List BasinNode)
    (r : BattlegroundAB × (Team → Nat)) : Prop where
  standing : ∀ j, r.1.Standing j
  nodes : ∀ j, r.1.nodes j = if s.freedIn diff done j then s.nodes j + 2 else s.nodes j
  timers : ∀ j, r.1.nodeTimers j =
    if j ∈ done then s.nodeTimers j - diff else s.nodeTimers j
  paid : r.1.Paid
  base : r.1.toBattleground = s.toBattleground
  scores : r.1.teamScores = s.teamScores
  lastTick : r.1.lastTick = s.lastTick
  occupations : ∃ new, r.1.occupations = new ++ s.occupations ∧
    ∀ j t, s.freedIn diff done j = true → s.nodes j = t.index + 1 →
      ∃ o ∈ new, o.node = j ∧ o.team = t
  points : ∀ t, r.2 t = done.countP fun j => decide (r.1.nodes j = t.index + 3)

theorem Progress.start (h : ∀ j, s.Standing j) (hp : s.Paid) (diff : Nat) :
    s.Progress diff [] (s, fun _ => 0) where
  standing := h
  nodes j := by simp [freedIn]
  timers j := by simp
  paid := hp
  base := rfl
  scores := rfl
  lastTick := rfl
  occupations := ⟨[], rfl, fun j t hj => by simp [freedIn] at hj⟩
  points t := by simp

theorem updateBanner_fields (diff : Nat) (i : BasinNode) :
    (s.updateBanner diff i).nodes = s.nodes ∧
      (s.updateBanner diff i).nodeTimers = s.nodeTimers ∧
      (s.updateBanner diff i).toBattleground = s.toBattleground ∧
      (s.updateBanner diff i).teamScores = s.teamScores ∧
      (s.updateBanner diff i).lastTick = s.lastTick ∧
      (s.updateBanner diff i).casts = s.casts ∧
      (s.updateBanner diff i).occupations = s.occupations := by
  rw [updateBanner_eq]
  exact ⟨rfl, rfl, rfl, rfl, rfl, rfl, rfl⟩

variable {done : List BasinNode} {r : BattlegroundAB × (Team → Nat)}

/-- The nodes up to `i` whose capture ends in the update. -/
def freed (s : BattlegroundAB) (diff : Nat) (i j : BasinNode) : Bool :=
  decide (j ≤ i) && s.expires diff j

def won (s : BattlegroundAB) (t : Team) (diff : Nat) (i j : BasinNode) : Bool :=
  s.freed diff i j && decide (s.nodes j = t.index + 1)

def FairTurn (s : BattlegroundAB) (diff : Nat) (i : BasinNode) : Prop :=
  s.expires diff i = true → ∀ t : Team, s.nodes i = t.index + 1 →
    Rewarding (s.settledAfter (s.freed diff i)) (s.heldAfter t (s.won t diff i))

theorem mem_turn {rest : List BasinNode} (h : List.finRange 5 = done ++ i :: rest) (j : BasinNode) :
    j ∈ done ++ [i] ↔ j ≤ i := by
  have hsorted : (done ++ i :: rest).Pairwise (· < ·) := h ▸ List.pairwise_lt_finRange 5
  have hall : j ∈ done ++ i :: rest := h ▸ List.mem_finRange j
  rw [List.pairwise_append] at hsorted
  obtain ⟨-, hrest, hcross⟩ := hsorted
  constructor
  · intro hj
    rcases List.mem_append.mp hj with hj | hj
    · exact (hcross j hj i List.mem_cons_self).le
    · exact (List.mem_singleton.mp hj).le
  · intro hle
    rcases List.mem_append.mp hall with hj | hj
    · exact List.mem_append_left _ hj
    · rcases List.mem_cons.mp hj with rfl | hj
      · simp
      · exact absurd ((List.pairwise_cons.mp hrest).1 j hj) (not_lt.mpr hle)

theorem freedIn_turn {rest : List BasinNode} (h : List.finRange 5 = done ++ i :: rest) :
    s.freedIn diff (done ++ [i]) = s.freed diff i := by
  funext j
  unfold freedIn freed
  rw [decide_eq_decide.mpr (mem_turn h j)]

theorem freedIn_all : s.freedIn diff (List.finRange 5) = s.freed diff 4 := by
  funext j
  have hj : j ≤ 4 := Fin.le_last j
  unfold freedIn freed
  rw [decide_eq_decide.mpr (iff_of_true (List.mem_finRange j) hj)]

theorem freedIn_append (diff : Nat) (done : List BasinNode) (i j : BasinNode) :
    s.freedIn diff (done ++ [i]) j = if j = i then s.expires diff i else s.freedIn diff done j := by
  by_cases hj : j = i
  · subst hj
    simp [freedIn]
  · simp [freedIn, hj]

theorem Progress.count (h : s.Progress diff done r) (hi : i ∉ done)
    (hsame : ∀ j, j ≠ i → s'.nodes j = r.1.nodes j) (t : Team) :
    (if s'.nodes i = t.index + BG_AB_NODE_TYPE_OCCUPIED then r.2 t + 1 else r.2 t) =
      (done ++ [i]).countP fun j => decide (s'.nodes j = t.index + 3) := by
  have hdone : done.countP (fun j => decide (s'.nodes j = t.index + 3)) = r.2 t := by
    rw [h.points]
    refine List.countP_congr fun j hj => ?_
    have hne : j ≠ i := by
      rintro rfl
      exact hi hj
    rw [hsame j hne]
  rw [List.countP_append, hdone, List.countP_singleton]
  unfold BG_AB_NODE_TYPE_OCCUPIED
  split <;> simp_all

theorem turn_counts (hs : ∀ j, s.Standing j)
    (hnodes : ∀ j, s'.nodes j = if s.freedIn diff done j then s.nodes j + 2 else s.nodes j)
    (htimers : ∀ j, s'.nodeTimers j = if j ∈ done then s.nodeTimers j - diff else s.nodeTimers j)
    (t : Team) : s'.settled = s.settledAfter (s.freedIn diff done) ∧
      s'.held t = s.heldAfter t (s.wonIn t diff done) := by
  constructor
  · refine countNodes_congr fun j => ?_
    rw [htimers]
    by_cases hj : j ∈ done
    · rw [if_pos hj]
      simp only [freedIn, hj, decide_true, Bool.true_and, expires]
      rw [← Bool.decide_or]
      exact decide_eq_decide.mpr (by omega)
    · rw [if_neg hj]
      simp [freedIn, hj]
  · refine countNodes_congr fun j => ?_
    rw [hnodes]
    cases hfr : s.freedIn diff done j with
    | true =>
      have hex : s.expires diff j = true := by
        simp only [freedIn, Bool.and_eq_true] at hfr
        exact hfr.2
      obtain ⟨u, hu⟩ := (hs j).contested (expires_iff.mp hex).1
      have := index_le u
      simp only [wonIn, hfr, if_pos, Bool.true_and, BG_AB_NODE_TYPE_OCCUPIED]
      rw [← Bool.decide_or]
      exact decide_eq_decide.mpr (by omega)
    | false => simp [wonIn, hfr, BG_AB_NODE_TYPE_OCCUPIED]

theorem Progress.turn (hs : ∀ j, s.Standing j) (h : s.Progress diff done r)
    {rest : List BasinNode} (hl : List.finRange 5 = done ++ i :: rest) (hf : s.FairTurn diff i) :
    s.Progress diff (done ++ [i]) (updateNode diff r i) := by
  have hi : i ∉ done := by
    have hnodup := hl ▸ List.nodup_finRange 5
    rw [List.nodup_append] at hnodup
    exact fun hmem => hnodup.2.2 i hmem i List.mem_cons_self rfl
  obtain ⟨hbn, hbt, hbb, hbs, hbl, hbc, hbo⟩ := updateBanner_fields (s := r.1) diff i
  have hstand : ∀ j, (r.1.updateBanner diff i).Standing j := updateBanner_standing h.standing i
  unfold updateNode
  generalize r.1.updateBanner diff i = s₁ at hbn hbt hbb hbs hbl hbc hbo hstand ⊢
  have hstand₂ : ∀ j, (s₁.updateTimer diff i).Standing j := updateTimer_standing hstand i
  have hnode : s₁.nodes i = s.nodes i := by
    rw [hbn, h.nodes]
    simp [freedIn, hi]
  have htimer : s₁.nodeTimers i = s.nodeTimers i := by
    rw [hbt, h.timers, if_neg hi]
  have hexp : s₁.expires diff i = s.expires diff i := by simp [expires, htimer]
  have hpaid : s₁.Paid := by
    unfold Paid
    rw [hbc, hbo]
    exact h.paid
  obtain ⟨new, hnew, hall⟩ := h.occupations
  cases ht : s.expires diff i with
  | true =>
    obtain ⟨hne, hle⟩ := expires_iff.mp ht
    obtain ⟨t, hn⟩ := (hstand i).contested (htimer.symm ▸ hne)
    obtain ⟨s₂, hd, heq⟩ := updateTimer_expires (hexp.trans ht) hn
    have hstand₃ := hd.standing (.occupies hn) hstand
    have hnodes : ∀ j, s₂.nodes j =
        if s.freedIn diff (done ++ [i]) j then s.nodes j + 2 else s.nodes j := by
      intro j
      rw [hd.nodes, freedIn_append]
      by_cases hj : j = i
      · subst hj
        simp [ht]
        omega
      · simp [hj, hbn, h.nodes]
    have htimers : ∀ j, s₂.nodeTimers j =
        if j ∈ done ++ [i] then s.nodeTimers j - diff else s.nodeTimers j := by
      intro j
      rw [hd.timers]
      by_cases hj : j = i
      · subst hj
        simp
        omega
      · simp [hj, hbt, h.timers]
    obtain ⟨hsettled, hheld⟩ := turn_counts hs hnodes htimers t
    have hown : s₂.nodes i = t.index + 3 := by
      rw [hd.nodes, Function.update_self, Nat.add_comm]
    have hrewards := hf ht t (hnode ▸ hn)
    unfold wonIn at hheld
    rw [freedIn_turn hl] at hsettled hheld
    unfold won at hrewards
    rw [← hsettled, ← hheld] at hrewards
    have hpaid₂ : s₂.Paid := by
      unfold Paid
      rw [hd.casts, hd.occupations]
      exact hpaid
    rw [heq] at hstand₂ ⊢
    refine ⟨hstand₂, hnodes, htimers,
      hpaid₂.nodeOccupied hown (held_le_settled hstand₃ t) hrewards, hd.base.trans (hbb.trans h.base),
      hd.scores.trans (hbs.trans h.scores), hd.lastTick.trans (hbl.trans h.lastTick), ?_,
      h.count hi fun j hj => ?_⟩
    · refine ⟨⟨i, t, s₂.held t⟩ :: new, ?_, ?_⟩
      · change _ :: s₂.occupations = _
        rw [hd.occupations, hbo, hnew, List.cons_append]
      · intro j u hj hu
        by_cases hji : j = i
        · subst hji
          have htu : t = u := index_inj (by omega)
          exact ⟨_, List.mem_cons_self, rfl, htu⟩
        · rw [freedIn_append, if_neg hji] at hj
          obtain ⟨o, ho, heqs⟩ := hall j u hj hu
          exact ⟨o, List.mem_cons_of_mem _ ho, heqs⟩
    · change s₂.nodes j = _
      rw [hd.nodes, Function.update_of_ne hj, hbn]
  | false =>
    rw [updateTimer_waits (hexp.trans ht)] at hstand₂ ⊢
    refine ⟨hstand₂, fun j => ?_, fun j => ?_, hpaid, hbb.trans h.base, hbs.trans h.scores,
      hbl.trans h.lastTick, ⟨new, hbo.trans hnew, fun j t hj hju => ?_⟩,
      h.count hi fun j _ => congrFun hbn j⟩
    · rw [freedIn_append]
      by_cases hj : j = i
      · subst hj
        simp [ht, hnode]
      · simp [hj, hbn, h.nodes]
    · by_cases hj : j = i
      · subst hj
        simp [htimer]
      · simp [hj, hbt, h.timers]
    · rw [freedIn_append] at hj
      by_cases hji : j = i
      · rw [if_pos hji, ht] at hj
        cases hj
      · rw [if_neg hji] at hj
        exact hall j t hj hju

theorem updateNodes_progress (hs : ∀ j, s.Standing j) (hp : s.Paid)
    (hf : ∀ i, s.FairTurn diff i) :
    s.Progress diff (List.finRange 5) (s.updateNodes diff) := by
  have hloop : ∀ rest done r, List.finRange 5 = done ++ rest → s.Progress diff done r →
      s.Progress diff (List.finRange 5) (rest.foldl (updateNode diff) r) := by
    intro rest
    induction rest with
    | nil =>
      intro done r hl h
      rw [List.append_nil] at hl
      rw [hl]
      exact h
    | cons i rest ih =>
      intro done r hl h
      exact ih (done ++ [i]) _ (by rw [hl]; simp) (h.turn hs hl (hf i))
  exact hloop (List.finRange 5) [] _ rfl (.start hs hp diff)

/-- The points a tick brings a team that occupies `points` nodes. -/
def gain (s : BattlegroundAB) (diff points : Nat) (t : Team) : Nat :=
  if points ≠ 0 ∧ tickInterval points < (s.lastTick t + diff) % 2 ^ 32 then tickPoints points else 0

theorem accumulate_fields (diff points : Nat) (t : Team) (hle : s.teamScores t ≤ BG_AB_MAX_TEAM_SCORE) :
    (s.accumulate diff points t).teamScores =
        Function.update s.teamScores t (min (s.teamScores t + s.gain diff points t)
          BG_AB_MAX_TEAM_SCORE) ∧
      (∀ u, u ≠ t → (s.accumulate diff points t).lastTick u = s.lastTick u) ∧
      (s.accumulate diff points t).toBattleground = s.toBattleground ∧
      (s.accumulate diff points t).casts = s.casts ∧
      (s.accumulate diff points t).occupations = s.occupations ∧
      (s.accumulate diff points t).nodes = s.nodes ∧
      ((∀ j, s.Standing j) → ∀ j, (s.accumulate diff points t).Standing j) := by
  have hkeep : Function.update s.teamScores t (min (s.teamScores t) BG_AB_MAX_TEAM_SCORE) =
      s.teamScores := by
    rw [Nat.min_eq_left hle, Function.update_eq_self]
  unfold accumulate gain
  by_cases hp : points = 0
  · rw [if_pos hp, if_neg (by simp [hp]), Nat.add_zero, hkeep]
    exact ⟨rfl, fun _ _ => rfl, rfl, rfl, rfl, rfl, fun h => h⟩
  · rw [if_neg hp]
    dsimp only
    by_cases ht : tickInterval points < (s.lastTick t + diff) % 2 ^ 32
    · have hgain : points ≠ 0 ∧ tickInterval points < (s.lastTick t + diff) % 2 ^ 32 := ⟨hp, ht⟩
      rw [if_pos ht, if_pos hgain]
      exact ⟨rfl, fun u hu => Function.update_of_ne hu .., rfl, rfl, rfl, rfl,
        fun h j => (h j).congr rfl rfl rfl rfl fun _ _ => rfl⟩
    · rw [if_neg ht, if_neg fun h => ht h.2, Nat.add_zero, hkeep]
      exact ⟨rfl, fun u hu => Function.update_of_ne hu .., rfl, rfl, rfl, rfl,
        fun h j => (h j).congr rfl rfl rfl rfl fun _ _ => rfl⟩

theorem testWin_eq (t : Team) : (s.testWin t).nodes = s.nodes ∧
    (s.testWin t).teamScores = s.teamScores ∧
    (s.testWin t).casts = s.casts ∧ (s.testWin t).occupations = s.occupations ∧
    ((∀ j, s.Standing j) → ∀ j, (s.testWin t).Standing j) ∧
    (s.teamScores t < BG_AB_MAX_TEAM_SCORE → (s.testWin t).toBattleground = s.toBattleground) ∧
    (BG_AB_MAX_TEAM_SCORE ≤ s.teamScores t →
      (s.testWin t).status = .waitLeave ∧ (s.testWin t).ends = some t :: s.ends) := by
  unfold testWin
  split
  · rename_i hle
    exact ⟨rfl, rfl, rfl, rfl, fun h j => (h j).congr rfl rfl rfl rfl fun _ _ => rfl,
      fun hlt => absurd hle (by omega), fun _ => ⟨rfl, rfl⟩⟩
  · rename_i hlt
    exact ⟨rfl, rfl, rfl, rfl, fun h => h, fun _ => rfl, fun hle => absurd hle hlt⟩

/-! ## Runs -/

/-- What an update must be: rewards in order, and at most one team that reaches the maximum. -/
structure FairUpdate (s : BattlegroundAB) (diff : Nat) : Prop where
  turns : ∀ i, s.FairTurn diff i
  win : ¬ ∀ t : Team, BG_AB_MAX_TEAM_SCORE ≤
    s.teamScores t + s.gain diff (s.heldAfter t (s.won t diff 4)) t

def Fair (s : BattlegroundAB) (a : Act) : Prop :=
  s.status = .inProgress → match a with
    | .click t near => ∀ i, clickedNode near = some i → s.Defends t i →
        Rewarding (s.settledAfter fun j => decide (j = i)) (s.heldAfter t fun j => decide (j = i))
    | .update diff => s.FairUpdate diff

inductive Reached : BattlegroundAB → Prop where
  | start {s : BattlegroundAB} (h : s.Opened) : Reached s
  | act {s : BattlegroundAB} (h : Reached s) (a : Act) (hf : s.Fair a) : Reached (s.act a)

structure Sound (s : BattlegroundAB) : Prop where
  standing : ∀ i, s.Standing i
  paid : s.Paid
  scores : ∀ t, s.teamScores t ≤ BG_AB_MAX_TEAM_SCORE
  running : s.status = .inProgress → s.ends = [] ∧ ∀ t, s.teamScores t < BG_AB_MAX_TEAM_SCORE
  ended : s.ends.length ≤ 1
  winner : ∀ x ∈ s.ends, ∃ t, x = some t ∧ s.teamScores t = BG_AB_MAX_TEAM_SCORE

theorem Opened.sound (h : s.Opened) : s.Sound where
  standing := h.standing
  paid := by simp [Paid, h.casts, h.occupations]
  scores t := by simp [h.scores]
  running _ := ⟨h.ends, fun t => by simp [h.scores, BG_AB_MAX_TEAM_SCORE]⟩
  ended := by simp [h.ends]
  winner x hx := by simp [h.ends] at hx

/-- A new occupation is the captor's, by the end of the capture or by the click of the team that
occupied the node before. -/
def OccupiedBy (s : BattlegroundAB) (a : Act) (i : BasinNode) (t : Team) : Prop :=
  (∃ diff, a = .update diff ∧ s.nodes i = t.index + 1 ∧ s.nodeTimers i ≠ 0 ∧
      s.nodeTimers i ≤ diff) ∨
    ∃ near, a = .click t near ∧ clickedNode near = some i ∧ s.prevNodes i = t.index + 3

structure Orderly (s : BattlegroundAB) (a : Act) : Prop where
  occupied : ∀ i t, s.nodes i ≠ t.index + 3 → (s.act a).nodes i = t.index + 3 →
    s.OccupiedBy a i t ∧ ∃ new, (s.act a).occupations = new ++ s.occupations ∧
      ∃ o ∈ new, o.node = i ∧ o.team = t
  scores : ∀ t, s.teamScores t ≤ (s.act a).teamScores t

theorem Sound.still (h : s.Sound) {a : Act} (hact : s.act a = s) :
    (s.act a).Sound ∧ s.Orderly a := by
  refine ⟨by rw [hact]; exact h, ?_, ?_⟩
  · intro i t hne hn
    rw [hact] at hn
    exact absurd hn hne
  · intro t
    rw [hact]

theorem click_step (h : s.Sound) {near : BasinNode → Bool} (hf : s.Fair (.click t near)) :
    (s.act (.click t near)).Sound ∧ s.Orderly (.click t near) := by
  by_cases hs : s.status = .inProgress
  · rcases click_cases (t := t) h.standing near with heq | ⟨i, hi, hc⟩
    · exact h.still heq
    rcases hc with ⟨delType, delTeam, hchange, hd⟩ | ⟨hdef, s₁, hchange, hd, heq⟩
    · have hstand := hd.standing hchange h.standing
      refine ⟨?_, ?_, ?_⟩
      · exact {
          standing := hstand
          paid := by
            have := h.paid
            unfold Paid at this ⊢
            rw [← hd.casts, ← hd.occupations] at this
            exact this
          scores := fun t => hd.scores ▸ h.scores t
          running := fun hst => by
            have := h.running hs
            rw [← hd.scores, ← congrArg Battleground.ends hd.base] at this
            exact this
          ended := congrArg Battleground.ends hd.base ▸ h.ended
          winner := by
            have := h.winner
            rw [← hd.scores, ← congrArg Battleground.ends hd.base] at this
            exact this }
      · intro j u hne hn
        change (s.eventPlayerClickedOnFlag t near).nodes j = _ at hn
        rw [hd.nodes] at hn
        by_cases hj : j = i
        · subst hj
          rw [Function.update_self] at hn
          have := index_le t
          omega
        · rw [Function.update_of_ne hj] at hn
          exact absurd hn hne
      · intro u
        change _ ≤ (s.eventPlayerClickedOnFlag t near).teamScores u
        rw [hd.scores]
    · have hstand := hd.standing hchange h.standing
      obtain ⟨hsettled, hheld⟩ := hd.settled_held
      have hrewards := hf hs i hi hdef
      rw [← hsettled, ← hheld] at hrewards
      have hown : s₁.nodes i = t.index + 3 := by
        rw [hd.nodes, Function.update_self, Nat.add_comm]
      have hpaid : s₁.Paid := by
        unfold Paid
        rw [hd.casts, hd.occupations]
        exact h.paid
      have hact : s.act (.click t near) = s₁.nodeOccupied i t := heq
      have hends : s₁.ends = s.ends := congrArg Battleground.ends hd.base
      refine ⟨?_, ?_, ?_⟩
      · rw [hact]
        exact {
          standing := fun j => nodeOccupied_standing hstand i j t
          paid := hpaid.nodeOccupied hown (held_le_settled hstand t) hrewards
          scores := fun u => (congrFun hd.scores u).trans_le (h.scores u)
          running := fun _ => by
            obtain ⟨he, hlt⟩ := h.running hs
            exact ⟨hends.trans he, fun u => (congrFun hd.scores u).trans_lt (hlt u)⟩
          ended := hends ▸ h.ended
          winner := fun x hx => by
            obtain ⟨u, hu, hmax⟩ := h.winner x (hends ▸ hx)
            exact ⟨u, hu, (congrFun hd.scores u).trans hmax⟩ }
      · intro j u hne hn
        rw [hact] at hn ⊢
        change s₁.nodes j = _ at hn
        rw [hd.nodes] at hn
        by_cases hj : j = i
        · subst hj
          rw [Function.update_self] at hn
          have htu : t = u := index_inj (by omega)
          subst htu
          exact ⟨.inr ⟨near, rfl, hi, hdef.2⟩, [⟨j, t, s₁.held t⟩], by
            rw [← hd.occupations]
            rfl, _, List.mem_singleton_self _, rfl, rfl⟩
        · rw [Function.update_of_ne hj] at hn
          exact absurd hn hne
      · intro u
        rw [hact]
        exact (congrFun hd.scores u).ge
  · refine h.still ?_
    change s.eventPlayerClickedOnFlag t near = s
    unfold eventPlayerClickedOnFlag
    rw [if_pos hs]

theorem gain_congr (h : s'.lastTick t = s.lastTick t) (points : Nat) :
    s'.gain diff points t = s.gain diff points t := by
  unfold gain
  rw [h]

theorem accumulate_both (diff : Nat) (hle : ∀ t, s.teamScores t ≤ BG_AB_MAX_TEAM_SCORE)
    (points : Team → Nat) :
    let s₂ := (s.accumulate diff (points .alliance) .alliance).accumulate diff (points .horde) .horde
    (∀ t, s₂.teamScores t = min (s.teamScores t + s.gain diff (points t) t) BG_AB_MAX_TEAM_SCORE) ∧
      s₂.toBattleground = s.toBattleground ∧ s₂.casts = s.casts ∧
      s₂.occupations = s.occupations ∧ s₂.nodes = s.nodes ∧
      ((∀ j, s.Standing j) → ∀ j, s₂.Standing j) := by
  obtain ⟨hsc, htick, hbase, hcasts, hocc, hnodes, hstand⟩ :=
    accumulate_fields diff (points .alliance) .alliance (hle .alliance)
  generalize s.accumulate diff (points .alliance) .alliance
    = s₁ at hsc htick hbase hcasts hocc hnodes hstand ⊢
  have hhorde : s₁.teamScores .horde = s.teamScores .horde := by
    rw [hsc, Function.update_of_ne (by decide)]
  obtain ⟨hsc', -, hbase', hcasts', hocc', hnodes', hstand'⟩ :=
    accumulate_fields diff (points .horde) .horde (hhorde ▸ hle .horde)
  refine ⟨fun t => ?_, hbase'.trans hbase, hcasts'.trans hcasts, hocc'.trans hocc,
    hnodes'.trans hnodes, fun h => hstand' (hstand h)⟩
  rw [hsc']
  cases t with
  | alliance => rw [Function.update_of_ne (by decide), hsc, Function.update_self]
  | horde =>
    rw [Function.update_self, hhorde, gain_congr (htick .horde (by decide))]

theorem update_step (h : s.Sound) (hf : s.Fair (.update diff)) :
    (s.act (.update diff)).Sound ∧ s.Orderly (.update diff) := by
  by_cases hs : s.status = .inProgress
  · obtain ⟨hturns, hwin⟩ := hf hs
    obtain ⟨hends, hlow⟩ := h.running hs
    have hprogress := updateNodes_progress h.standing h.paid hturns
    have hact : s.act (.update diff) =
        ((((s.updateNodes diff).1.accumulate diff ((s.updateNodes diff).2 .alliance)
          .alliance).accumulate diff ((s.updateNodes diff).2 .horde) .horde).testWin
            .alliance).testWin .horde := if_pos hs
    generalize s.updateNodes diff = r at hprogress hact
    have hpoints : ∀ t, r.2 t = s.heldAfter t (s.won t diff 4) := by
      intro t
      have hheld := (turn_counts h.standing hprogress.nodes hprogress.timers t).2
      unfold wonIn at hheld
      rw [freedIn_all] at hheld
      rw [hprogress.points]
      exact hheld
    obtain ⟨hsc, hbase, hcasts, hocc, hnodes, hstand⟩ := accumulate_both (s := r.1) diff
      (fun t => (congrFun hprogress.scores t).trans_le (h.scores t)) r.2
    generalize (r.1.accumulate diff (r.2 .alliance) .alliance).accumulate diff (r.2 .horde)
      .horde = s₂ at hact hsc hbase hcasts hocc hnodes hstand
    have hscore : ∀ t, s₂.teamScores t = min (s.teamScores t +
        s.gain diff (s.heldAfter t (s.won t diff 4)) t) BG_AB_MAX_TEAM_SCORE := by
      intro t
      rw [hsc, gain_congr (congrFun hprogress.lastTick t), hprogress.scores, hpoints]
    have hle : ∀ t, s₂.teamScores t ≤ BG_AB_MAX_TEAM_SCORE := fun t => by
      rw [hscore]
      exact Nat.min_le_right _ _
    have hends₂ : s₂.ends = [] :=
      (congrArg Battleground.ends (hbase.trans hprogress.base)).trans hends
    obtain ⟨hn₃, hsc₃, hc₃, ho₃, hst₃, hlt₃, hge₃⟩ := testWin_eq (s := s₂) .alliance
    generalize s₂.testWin .alliance = s₃ at hact hn₃ hsc₃ hc₃ ho₃ hst₃ hlt₃ hge₃
    obtain ⟨hn₄, hsc₄, hc₄, ho₄, hst₄, hlt₄, hge₄⟩ := testWin_eq (s := s₃) .horde
    rw [← hact] at hn₄ hsc₄ hc₄ ho₄ hst₄ hlt₄ hge₄
    clear hact
    have hsc' : ∀ t, (s.act (.update diff)).teamScores t = s₂.teamScores t := fun t => by
      rw [hsc₄, hsc₃]
    have hn' : (s.act (.update diff)).nodes = r.1.nodes := hn₄.trans (hn₃.trans hnodes)
    have hocc' : (s.act (.update diff)).occupations = r.1.occupations := ho₄.trans (ho₃.trans hocc)
    -- the tests of the two teams
    have houtcome : ((s.act (.update diff)).toBattleground = s₂.toBattleground ∧
        ∀ t, s₂.teamScores t < BG_AB_MAX_TEAM_SCORE) ∨
        (s.act (.update diff)).status = .waitLeave ∧ ∃ t, s₂.teamScores t = BG_AB_MAX_TEAM_SCORE ∧
          (s.act (.update diff)).ends = [some t] := by
      have hnot : ¬ (BG_AB_MAX_TEAM_SCORE ≤ s₂.teamScores .alliance ∧
          BG_AB_MAX_TEAM_SCORE ≤ s₂.teamScores .horde) := by
        rintro ⟨ha, hh⟩
        refine hwin fun t => ?_
        have := hscore t
        cases t <;> omega
      rw [← hsc₃] at hnot
      by_cases ha : BG_AB_MAX_TEAM_SCORE ≤ s₂.teamScores .alliance
      · obtain ⟨hst, he⟩ := hge₃ ha
        have hh : s₃.teamScores .horde < BG_AB_MAX_TEAM_SCORE := by
          rw [hsc₃] at hnot ⊢
          omega
        right
        rw [hlt₄ hh]
        exact ⟨hst, .alliance, le_antisymm (hle _) ha, by rw [he, hends₂]⟩
      · have hbase₃ := hlt₃ (by omega)
        by_cases hh : BG_AB_MAX_TEAM_SCORE ≤ s₃.teamScores .horde
        · obtain ⟨hst, he⟩ := hge₄ hh
          rw [hsc₃] at hh
          refine .inr ⟨hst, .horde, le_antisymm (hle _) hh, ?_⟩
          rw [he, hbase₃, hends₂]
        · refine .inl ⟨(hlt₄ (by omega)).trans hbase₃, fun t => ?_⟩
          rw [hsc₃] at hh
          cases t <;> omega
    refine ⟨?_, ?_, ?_⟩
    · refine {
        standing := hst₄ (hst₃ (hstand hprogress.standing))
        paid := ?_
        scores := fun t => (hsc' t).trans_le (hle t)
        running := fun hst => ?_
        ended := ?_
        winner := fun x hx => ?_ }
      · unfold Paid
        rw [hc₄, hc₃, hcasts, hocc']
        exact hprogress.paid
      · rcases houtcome with ⟨hb, hlt⟩ | ⟨hw, -⟩
        · exact ⟨(congrArg Battleground.ends hb).trans hends₂, fun t => (hsc' t).trans_lt (hlt t)⟩
        · rw [hw] at hst
          cases hst
      · rcases houtcome with ⟨hb, -⟩ | ⟨-, t, -, he⟩
        · simp [congrArg Battleground.ends hb, hends₂]
        · simp [he]
      · rcases houtcome with ⟨hb, -⟩ | ⟨-, t, hmax, he⟩
        · rw [congrArg Battleground.ends hb, hends₂] at hx
          cases hx
        · rw [he, List.mem_singleton] at hx
          exact ⟨t, hx, (hsc' t).trans hmax⟩
    · intro i t hne hn
      rw [hn', hprogress.nodes] at hn
      by_cases hfr : s.freedIn diff (List.finRange 5) i = true
      · rw [if_pos hfr] at hn
        have hex : s.expires diff i = true := by
          simp only [freedIn, Bool.and_eq_true] at hfr
          exact hfr.2
        obtain ⟨hpos, hdue⟩ := expires_iff.mp hex
        have hnode : s.nodes i = t.index + 1 := by omega
        obtain ⟨new, hnew, hall⟩ := hprogress.occupations
        exact ⟨.inl ⟨diff, rfl, hnode, hpos, hdue⟩, new, hocc'.trans hnew, hall i t hfr hnode⟩
      · rw [if_neg hfr] at hn
        exact absurd hn hne
    · intro t
      rw [hsc', hscore]
      exact Nat.le_min.mpr ⟨Nat.le_add_right _ _, h.scores t⟩
  · exact h.still (if_neg hs)

theorem Reached.sound (h : Reached s) : s.Sound := by
  induction h with
  | start h => exact h.sound
  | act h a hf ih =>
    cases a with
    | click t near => exact (click_step ih hf).1
    | update diff => exact (update_step ih hf).1

def banners (s : BattlegroundAB) (i : BasinNode) : Nat :=
  [0, 1, 2, 3, 4].countP (fun k => s.shown (i * 8 + k)) +
    if (s.bannerTimers i).timer ≠ 0 then 1 else 0

def auras (s : BattlegroundAB) (i : BasinNode) : Nat :=
  [5, 6, 7].countP (fun k => s.shown (i * 8 + k)) +
    if (s.bannerTimers i).timer ≠ 0 ∧ (s.bannerTimers i).type ≠ 0 then 1 else 0

theorem Standing.banners_auras (h : s.Standing i) : s.banners i ≤ 1 ∧ s.auras i ≤ 1 := by
  have hstate := h.state
  unfold banners auras
  by_cases h0 : (s.bannerTimers i).timer = 0
  · have hshown : ∀ k, k < 8 → s.shown (i * 8 + k) =
        decide (k = s.nodes i ∨ k = auraOf (s.nodes i)) := by
      intro k hk
      rw [Bool.eq_iff_iff, h.shown k hk]
      simp [h0]
    simp only [List.countP_cons, List.countP_nil, hshown 0 (by omega), hshown 1 (by omega),
      hshown 2 (by omega), hshown 3 (by omega), hshown 4 (by omega), hshown 5 (by omega),
      hshown 6 (by omega), hshown 7 (by omega), h0]
    generalize s.nodes i = n at hstate
    obtain rfl | rfl | rfl | rfl | rfl : n = 0 ∨ n = 1 ∨ n = 2 ∨ n = 3 ∨ n = 4 := by omega
    all_goals simp [auraOf]
  · have hshown : ∀ k, k < 8 → s.shown (i * 8 + k) = false := by
      intro k hk
      rw [Bool.eq_false_iff, ne_eq, h.shown k hk]
      simp [h0]
    simp only [List.countP_cons, List.countP_nil, hshown 0 (by omega), hshown 1 (by omega),
      hshown 2 (by omega), hshown 3 (by omega), hshown 4 (by omega), hshown 5 (by omega),
      hshown 6 (by omega), hshown 7 (by omega)]
    constructor
    · simp [h0]
    · simp only [Bool.false_eq_true, if_false, Nat.zero_add]
      split <;> simp

/-- Timers, banners, rewards, scores and the end of the battle are in order. -/
theorem Reached.nodes_inOrder (h : Reached s) :
    (∀ i, (s.nodes i = 1 ∨ s.nodes i = 2) ↔ s.nodeTimers i ≠ 0) ∧
      (∀ i, s.banners i ≤ 1 ∧ s.auras i ≤ 1) ∧
      s.casts = s.occupations.flatMap rewards ∧
      (∀ t, s.teamScores t ≤ BG_AB_MAX_TEAM_SCORE) ∧
      s.ends.length ≤ 1 ∧
      (∀ x ∈ s.ends, ∃ t, x = some t ∧ s.teamScores t = BG_AB_MAX_TEAM_SCORE) ∧
      ∀ a, s.Fair a → s.Orderly a := by
  have hs := h.sound
  refine ⟨fun i => (hs.standing i).timer, fun i => (hs.standing i).banners_auras, hs.paid, hs.scores,
    hs.ended, hs.winner, fun a hf => ?_⟩
  cases a with
  | click t near => exact (click_step hs hf).2
  | update diff => exact (update_step hs hf).2

def basinOpened : BattlegroundAB where
  status := .inProgress
  shown o := decide (o % 8 = 0)
  honorTics := 260
  reputationTics := 160

theorem basinOpened_opened : basinOpened.Opened where
  status := rfl
  ends := rfl
  nodes _ := rfl
  prevNodes _ := rfl
  timers _ := rfl
  banners _ := rfl
  shown i k hk := by
    change decide ((i * 8 + k) % 8 = 0) = true ↔ k = 0
    rw [decide_eq_true_iff]
    omega
  scores _ := rfl
  casts := rfl
  occupations := rfl

def basinAssaulted : BattlegroundAB :=
  (((basinOpened.act (.click .alliance (· = 0))).act (.update 1000)).act
    (.click .alliance (· = 1))).act (.click .alliance (· = 2))

/-- A node is taken while two others are contested, and no reward is due. -/
theorem nodes_taken : (basinAssaulted.act (.update 59000)).nodes 0 = 3 ∧
    (basinAssaulted.act (.update 59000)).banners 0 ≤ 1 ∧
    (basinAssaulted.act (.update 59000)).casts =
      (basinAssaulted.act (.update 59000)).occupations.flatMap rewards := by
  have hclick : ∀ (s : BattlegroundAB) (i : BasinNode) (t : Team), s.nodes i = 0 →
      clickedNode (· = i) = some i → s.Fair (.click t (· = i)) := by
    intro s i t hn hi _ j hj hdef
    rw [hi] at hj
    cases hj
    have := hdef.1
    omega
  have hfirst := (Reached.start basinOpened_opened).act (.click .alliance (· = 0))
    (hclick _ _ _ rfl (by decide))
  have hsecond := hfirst.act (.update 1000) fun _ => ⟨fun i hi t => by
    revert i
    cases t <;> decide +kernel, fun hall => absurd (hall .alliance) (by decide +kernel)⟩
  have hthird := hsecond.act (.click .alliance (· = 1)) (hclick _ _ _ (by decide +kernel) (by decide))
  have hassault : Reached basinAssaulted := hthird.act (.click .alliance (· = 2))
    (hclick _ _ _ (by decide +kernel) (by decide))
  have htaken := hassault.act (.update 59000) fun _ => ⟨fun i hi t => by
    revert i
    cases t <;> decide +kernel, fun hall => absurd (hall .alliance) (by decide +kernel)⟩
  obtain ⟨-, hbanners, hpaid, -⟩ := htaken.nodes_inOrder
  exact ⟨by decide +kernel, (hbanners 0).1, hpaid⟩

/-- Both teams reach the maximum in one update, and the battle ends twice. -/
example : (({ basinOpened with
    nodes := fun i => if i = 0 then 3 else if i = 1 then 4 else 0,
    teamScores := fun _ => 1590, lastTick := fun _ => 12000 } : BattlegroundAB).act
      (.update 1)).ends = [some .horde, some .alliance] := by decide +kernel

/-- The first node that is taken brings both rewards: every neutral node is counted. -/
theorem firstNode_rewards : basinOpened.Opened ∧
    ((basinOpened.act (.click .alliance (· = 0))).act (.update 60000)).occupations =
      [⟨0, .alliance, 1⟩] ∧
    ((basinOpened.act (.click .alliance (· = 0))).act (.update 60000)).casts =
      [(SPELL_AB_QUEST_REWARD_4_BASES, .alliance), (SPELL_AB_QUEST_REWARD_5_BASES, .alliance)] ∧
    ((basinOpened.act (.click .alliance (· = 0))).act (.update 60000)).casts ≠
      ((basinOpened.act (.click .alliance (· = 0))).act (.update 60000)).occupations.flatMap
        rewards :=
  ⟨basinOpened_opened, by decide +kernel, by decide +kernel, by decide +kernel⟩

end BattlegroundAB

end SkyfireBG
