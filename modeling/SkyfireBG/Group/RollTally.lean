import SkyfireBG.Group.RollStep
import SkyfireBG.Lib.Byte

/-!
# SkyfireBG.Group.RollTally

The totals a roll keeps beside its vote map.

* `Roll.Tallied`        — each total is the number of recorded votes of its kind.
* `Roll.Tallied.closes` — then the closing test asks whether every eligible voter has voted.
* `roll_tally`          — the totals stay right over every run in which nobody votes twice.
* `roll_tally_revote`   — a second vote of one player is counted beside the first.
-/

namespace SkyfireBG

def RollVote.eligible (v : RollVote) : Bool := v != .notValid

def RollVote.recorded (v : RollVote) : Bool := v.isPass || v.isNeed || v.isGreed

theorem RollVote.eligible_of_recorded {v : RollVote} (h : v.recorded = true) :
    v.eligible = true := by
  cases v <;> first | rfl | exact absurd h (by decide)

structure Roll.Tallied (r : Roll) : Prop where
  need : r.totalNeed.toNat = r.playerVote.countP RollVote.isNeed
  greed : r.totalGreed.toNat = r.playerVote.countP RollVote.isGreed
  pass : r.totalPass.toNat = r.playerVote.countP RollVote.isPass
  players : r.totalPlayersRolling.toNat = r.playerVote.countP RollVote.eligible

def Roll.AllVoted (r : Roll) : Prop :=
  ∀ guid v, r.playerVote.find? guid = some v → v.eligible = true → v.recorded = true

namespace Roll.Tallied

variable {r : Roll} {guid p choice : Nat}

theorem recorded_count : r.playerVote.countP RollVote.recorded =
    r.playerVote.countP RollVote.isPass + r.playerVote.countP RollVote.isNeed +
      r.playerVote.countP RollVote.isGreed := by
  have h1 : r.playerVote.countP RollVote.recorded =
      r.playerVote.countP (fun v => v.isPass || v.isNeed) +
        r.playerVote.countP RollVote.isGreed :=
    OrdMap.countP_or (by intro v; cases v <;> decide)
  rw [h1, OrdMap.countP_or (by intro v; cases v <;> decide)]

theorem closes (h : r.Tallied) : r.allCounted = true ↔ r.AllVoted := by
  have hle := OrdMap.countP_le_iff (m := r.playerVote) (p := RollVote.recorded)
    (q := RollVote.eligible) (fun v => RollVote.eligible_of_recorded)
  rw [recorded_count] at hle
  simp only [Roll.allCounted, h.need, h.greed, h.pass, h.players, decide_eq_true_eq, ge_iff_le]
  exact hle

theorem cast_other (hc : MAX_ROLL_TYPE ≤ choice) : r.cast p choice = r := by
  have h0 : choice ≠ ROLL_PASS := by unfold ROLL_PASS; unfold MAX_ROLL_TYPE at hc; omega
  have h1 : choice ≠ ROLL_NEED := by unfold ROLL_NEED; unfold MAX_ROLL_TYPE at hc; omega
  have h2 : choice ≠ ROLL_GREED := by unfold ROLL_GREED; unfold MAX_ROLL_TYPE at hc; omega
  have h3 : choice ≠ ROLL_DISENCHANT := by
    unfold ROLL_DISENCHANT; unfold MAX_ROLL_TYPE at hc; omega
  rw [Roll.cast, if_neg h0, if_neg h1, if_neg h2, if_neg h3]

/-- A total that counts `q` before the vote counts it after, one higher if the vote is a `q`. -/
theorem count_vote (h : r.Tallied) (hp : r.playerVote.find? p = some .notEmitedYet)
    {v : RollVote} (hv : v.eligible = true) {q : RollVote → Bool}
    (hq : ∀ v, q v = true → v.eligible = true) (hn : q .notEmitedYet = false) {t : UInt8}
    (ht : t.toNat = r.playerVote.countP q) :
    (if q v then t + 1 else t).toNat = (r.playerVote.set p v).countP q := by
  have hset := OrdMap.countP_set_of_some (v := v) (p := q) hp
  have hel := OrdMap.countP_set_of_some (v := v) (p := RollVote.eligible) hp
  have hmono := OrdMap.countP_mono (m := r.playerVote.set p v) hq
  have hlt := r.totalPlayersRolling.toNat_lt
  rw [h.players] at hlt
  have hye : RollVote.eligible .notEmitedYet = true := rfl
  simp only [hye, hv, if_true] at hel
  cases hqv : q v with
  | false => simp [hqv, hn] at hset ⊢; omega
  | true =>
    simp only [hqv, hn, if_true, if_false, Bool.false_eq_true] at hset ⊢
    rw [byte_inc (by omega)]
    omega

theorem count_players (h : r.Tallied) (hp : r.playerVote.find? p = some .notEmitedYet)
    {v : RollVote} (hv : v.eligible = true) :
    r.totalPlayersRolling.toNat = (r.playerVote.set p v).countP RollVote.eligible := by
  have hset := OrdMap.countP_set_of_some (v := v) (p := RollVote.eligible) hp
  have hye : RollVote.eligible .notEmitedYet = true := rfl
  simp only [hye, hv, if_true] at hset
  rw [h.players]
  omega

theorem cast (h : r.Tallied) (hp : r.playerVote.find? p = some .notEmitedYet) :
    (r.cast p choice).Tallied := by
  have elN : ∀ v, RollVote.isNeed v = true → v.eligible = true := by intro v; cases v <;> decide
  have elG : ∀ v, RollVote.isGreed v = true → v.eligible = true := by intro v; cases v <;> decide
  have elP : ∀ v, RollVote.isPass v = true → v.eligible = true := by intro v; cases v <;> decide
  have all : ∀ v : RollVote, v.eligible = true →
      (if v.isNeed then r.totalNeed + 1 else r.totalNeed).toNat =
        (r.playerVote.set p v).countP RollVote.isNeed ∧
      (if v.isGreed then r.totalGreed + 1 else r.totalGreed).toNat =
        (r.playerVote.set p v).countP RollVote.isGreed ∧
      (if v.isPass then r.totalPass + 1 else r.totalPass).toNat =
        (r.playerVote.set p v).countP RollVote.isPass ∧
      r.totalPlayersRolling.toNat = (r.playerVote.set p v).countP RollVote.eligible :=
    fun v hv => ⟨h.count_vote hp hv elN rfl h.need, h.count_vote hp hv elG rfl h.greed,
      h.count_vote hp hv elP rfl h.pass, h.count_players hp hv⟩
  simp only [Roll.cast]
  split_ifs
  · obtain ⟨h1, h2, h3, h4⟩ := all .pass rfl
    exact ⟨h1, h2, h3, h4⟩
  · obtain ⟨h1, h2, h3, h4⟩ := all .need rfl
    exact ⟨h1, h2, h3, h4⟩
  · obtain ⟨h1, h2, h3, h4⟩ := all .greed rfl
    exact ⟨h1, h2, h3, h4⟩
  · obtain ⟨h1, h2, h3, h4⟩ := all .disenchant rfl
    exact ⟨h1, h2, h3, h4⟩
  · exact h

theorem count_drop {v : RollVote} (hp : r.playerVote.find? guid = some v) {q : RollVote → Bool}
    {t : UInt8} (ht : t.toNat = r.playerVote.countP q) :
    (if q v then t - 1 else t).toNat = (r.playerVote.erase guid).countP q := by
  have herase := OrdMap.countP_erase (p := q) hp
  cases hqv : q v with
  | false => simp [hqv] at herase ⊢; omega
  | true =>
    simp only [hqv, if_true] at herase ⊢
    rw [byte_dec (by omega)]
    omega

theorem dropVoter (h : r.Tallied) : (r.dropVoter guid).Tallied := by
  cases hp : r.playerVote.find? guid with
  | none => rw [LootWorld.dropVoter_of_none hp]; exact h
  | some v =>
    simp only [Roll.dropVoter, hp]
    refine ⟨count_drop hp h.need, count_drop hp h.greed, count_drop hp h.pass, ?_⟩
    have := count_drop hp h.players
    cases v <;> exact this

end Roll.Tallied

theorem Roll.Tallied.enlist {store : TemplateStore} {item : LootItem} {info : Nat → RollMember}
    {r : Roll} {guid : Nat} (h : r.Tallied) (hnew : r.playerVote.find? guid = none)
    (hroom : r.playerVote.size < 255) : (Roll.enlist store item info r guid).Tallied := by
  have el : ∀ {q : RollVote → Bool}, r.playerVote.countP q < 255 := fun {q} =>
    Nat.lt_of_le_of_lt OrdMap.countP_le_size hroom
  have hP := h.pass ▸ el (q := RollVote.isPass)
  have hE := h.players ▸ el (q := RollVote.eligible)
  simp only [Roll.enlist]
  split
  · split
    · refine ⟨?_, ?_, ?_, ?_⟩ <;> dsimp only <;> rw [OrdMap.countP_set_of_none hnew]
      · exact h.need
      · exact h.greed
      · rw [byte_inc hP, h.pass]; rfl
      · rw [byte_inc hE, h.players]; rfl
    · refine ⟨?_, ?_, ?_, ?_⟩ <;> dsimp only <;> rw [OrdMap.countP_set_of_none hnew]
      · exact h.need
      · exact h.greed
      · exact h.pass
      · rw [byte_inc hE, h.players]; rfl
  · exact h

theorem enlist_find? {store : TemplateStore} {item : LootItem} {info : Nat → RollMember}
    {r : Roll} {guid g : Nat} (h : (Roll.enlist store item info r guid).playerVote.find? g ≠ none) :
    g = guid ∨ r.playerVote.find? g ≠ none := by
  by_cases hg : g = guid
  · exact .inl hg
  · refine .inr ?_
    simp only [Roll.enlist] at h
    split at h
    · split at h <;> simpa [OrdMap.find?_set_ne hg] using h
    · exact h

theorem enlist_size (store : TemplateStore) (item : LootItem) (info : Nat → RollMember)
    {r : Roll} {guid : Nat} (hnew : r.playerVote.find? guid = none) :
    (Roll.enlist store item info r guid).playerVote.size ≤ r.playerVote.size + 1 := by
  simp only [Roll.enlist]
  split
  · split <;> simp [OrdMap.size_set_of_none hnew]
  · omega

theorem enlistAll_tallied {store : TemplateStore} {item : LootItem} {info : Nat → RollMember}
    {ms : List Nat} {r : Roll} (h : r.Tallied) (hnd : ms.Nodup)
    (hnew : ∀ g ∈ ms, r.playerVote.find? g = none) (hroom : r.playerVote.size + ms.length ≤ 255) :
    (ms.foldl (Roll.enlist store item info) r).Tallied := by
  induction ms generalizing r with
  | nil => exact h
  | cons g ms ih =>
    obtain ⟨hg, hnd⟩ := List.nodup_cons.mp hnd
    have hgn := hnew g (.head _)
    have hsize := enlist_size store item info hgn
    simp only [List.length_cons] at hroom
    rw [List.foldl_cons]
    refine ih (h.enlist hgn (by omega)) hnd (fun g' hg' => ?_) (by omega)
    by_contra hc
    rcases enlist_find? hc with rfl | hc
    · exact hg hg'
    · exact hc (hnew g' (.tail _ hg'))

theorem openRoll_tallied (store : TemplateStore) (info : Nat → RollMember) {ms : List Nat}
    (guid : Nat) (item : LootItem) (hnd : ms.Nodup) (hlen : ms.length ≤ 255) :
    (openRoll store ms info guid item).Tallied :=
  enlistAll_tallied ⟨rfl, rfl, rfl, rfl⟩ hnd (fun _ _ => rfl) (by simpa [Roll.ofItem] using hlen)

theorem OpenedFor.tallied {store : TemplateStore} {g : Group} {info : Nat → RollMember}
    {l slot : Nat} {item : LootItem} {r : Roll} (h : OpenedFor store g info l slot item r)
    (hnd : g.memberMgr.Nodup) (hlen : g.memberMgr.length ≤ 255) : r.Tallied := by
  have ht := openRoll_tallied store info r.itemGUID item hnd hlen
  exact ⟨by rw [h.votes, h.need]; exact ht.need, by rw [h.votes, h.greed]; exact ht.greed,
    by rw [h.votes, h.pass]; exact ht.pass, by rw [h.votes, h.players]; exact ht.players⟩

/-- At most 255 members are linked when a roll is opened, and nobody votes twice on a roll. -/
def TallyOk (w : LootWorld) : LootEvent → Prop
  | .groupLoot _ _ => w.group.memberMgr.length ≤ 255
  | .needBeforeGreed _ _ => w.group.memberMgr.length ≤ 255
  | .vote p guid choice _ => ∀ r ∈ w.group.rollId, r.itemGUID = guid → choice < MAX_ROLL_TYPE →
      r.playerVote.find? p = none ∨ r.playerVote.find? p = some .notEmitedYet
  | _ => True

instance (w : LootWorld) (e : LootEvent) : Decidable (TallyOk w e) := by
  cases e <;> unfold TallyOk <;> infer_instance

variable {store : TemplateStore} {w : LootWorld}

theorem tally_step (hw : RollsWF w) (ht : ∀ r ∈ w.group.rollId, r.Tallied) {e : LootEvent}
    (hok : TallyOk w e) : ∀ r ∈ (w.step store e).group.rollId, r.Tallied := by
  intro r hr
  cases LootWorld.roll_step hw e hr with
  | kept hold => exact ht r hold
  | cleared hold =>
    obtain ⟨h1, h2, h3, h4⟩ := ht _ hold
    exact ⟨h1, h2, h3, h4⟩
  | @voted p choice k l env r hk hl hv hc =>
    have hold := List.mem_of_getElem? hk
    by_cases hch : choice < MAX_ROLL_TYPE
    · rcases hok r hold rfl hch with hn | hn
      · rw [hn] at hv; exact absurd hv (by decide)
      · exact (ht r hold).cast hn
    · rw [Roll.Tallied.cast_other (by omega)]
      exact ht r hold
  | left hold => exact (ht _ hold).dropVoter
  | opened he hi ho =>
    rcases he with rfl | rfl
    · exact ho.tallied hw.linked hok
    · exact ho.tallied hw.linked hok

theorem tally_run {es : List LootEvent} (h : Run (LootWorld.step store) TallyOk {} es w) :
    RollsWF w ∧ ∀ r ∈ w.group.rollId, r.Tallied :=
  h.invariant (I := fun w => RollsWF w ∧ ∀ r ∈ w.group.rollId, r.Tallied)
    (fun _ e hi hok => ⟨LootWorld.step_wf hi.1 e, tally_step hi.1 hi.2 hok⟩)
    ⟨LootWorld.init_wf, by intro r hr; cases hr⟩

theorem vote_closes {p guid choice k l : Nat} {env : RollEnv} {r : Roll} {w' : LootWorld}
    (hw : RollsWF w) (hv : LootWorld.Voted w p guid choice env k r l w')
    (ht : (r.cast p choice).Tallied) :
    (∀ r' ∈ w'.group.rollId, r'.itemGUID ≠ guid) ↔ (r.cast p choice).AllVoted := by
  have hlt := (List.getElem?_eq_some_iff.mp hv.at_k).1
  rw [← ht.closes, hv.step]
  cases hc : (r.cast p choice).allCounted with
  | true =>
    simp only [if_true, iff_true]
    intro r' hr' hg
    obtain ⟨j, hj, hjr⟩ := List.mem_eraseIdx_iff_getElem?.mp hr'
    have := LootWorld.itemGUID_inj hw.guids hjr hv.at_k (hg.trans hv.item.symm)
    exact hj this
  | false =>
    simp only [Bool.false_eq_true, if_false, iff_false]
    intro hno
    refine hno (r.cast p choice) ?_ (by simpa using hv.item)
    exact List.mem_set hlt _

/-- In a run in which nobody votes twice on a roll, every total of every roll is the number of
recorded votes of its kind, `totalPlayersRolling` is the number of eligible voters, and a vote that
reaches a roll closes it exactly when every eligible voter has then voted. -/
theorem roll_tally {es : List LootEvent} (h : Run (LootWorld.step store) TallyOk {} es w) :
    (∀ r ∈ w.group.rollId, r.Tallied) ∧
    ∀ p guid choice env, TallyOk w (.vote p guid choice env) →
      w.countRollVote p guid choice env = w ∨
      ∃ k r l, LootWorld.Voted w p guid choice env k r l (w.countRollVote p guid choice env) ∧
        (r.cast p choice).Tallied ∧
        ((∀ r' ∈ (w.countRollVote p guid choice env).group.rollId, r'.itemGUID ≠ guid) ↔
          (r.cast p choice).AllVoted) := by
  obtain ⟨hw, ht⟩ := tally_run h
  refine ⟨ht, fun p guid choice env hok => ?_⟩
  rcases LootWorld.countRollVote_cases w p guid choice env with h' | ⟨k, r, l, hv⟩
  · exact .inl h'
  · have hr := List.mem_of_getElem? hv.at_k
    have htc : (r.cast p choice).Tallied := by
      by_cases hch : choice < MAX_ROLL_TYPE
      · rcases hok r hr hv.item hch with hn | hn
        · exact absurd hv.voter (by simp [hn])
        · exact (ht r hr).cast hn
      · rw [Roll.Tallied.cast_other (by omega)]
        exact ht r hr
    exact .inr ⟨k, r, l, hv, htc, vote_closes hw hv htc⟩

/-- Two of four players have voted, and the totals of the open roll are right. -/
theorem roll_tally_two :
    let w := (sampleRoll ++ [LootEvent.vote 1 1 1 sampleEnv, .vote 2 1 2 sampleEnv]).foldl
      (LootWorld.step sampleStore) {}
    w.group.rollId.length = 1 ∧ ∀ r ∈ w.group.rollId, r.Tallied :=
  ⟨by decide, (roll_tally (Admitted.run (by decide))).1⟩

/-- Player 1 votes need twice and then greed twice: each vote is counted, and the fourth closes the
roll although players 2, 3 and 4 have not voted. -/
theorem roll_tally_revote :
    (((sampleRoll ++ [LootEvent.vote 1 1 1 sampleEnv, .vote 1 1 1 sampleEnv, .vote 1 1 2 sampleEnv]).foldl
        (LootWorld.step sampleStore) {}).group.rollId.map (fun r =>
          (r.totalNeed.toNat, r.playerVote.countP RollVote.isNeed,
            r.totalGreed.toNat, r.playerVote.countP RollVote.isGreed,
            r.playerVote.find? 2)) = [(2, 0, 1, 1, some .notEmitedYet)]) ∧
    ((sampleRoll ++ [LootEvent.vote 1 1 1 sampleEnv, .vote 1 1 1 sampleEnv, .vote 1 1 2 sampleEnv,
        .vote 1 1 2 sampleEnv]).foldl (LootWorld.step sampleStore) {}).group.rollId.length = 0 := by
  decide

end SkyfireBG
