import SkyfireBG.Group.RollTally
import SkyfireBG.Loot.ItemStep

/-!
# SkyfireBG.Group.RollClose

When a roll closes, and what becomes of its item.

* `Roll.Pending` — an open roll waits for somebody: the invariant of a live roll.
* `roll_closes`  — in every run that keeps to `CloseOk`, every live roll waits for a voter, and a
  roll that goes frees its item.
* `roll_stalls`  — the last player a roll waits for leaves: the roll stays open, with every vote in.
-/

namespace SkyfireBG

def LootItem.Released (i : LootItem) : Prop := i.isLooted = true ∨ i.isBlocked = false

def Roll.Waits (r : Roll) : Prop :=
  ∃ guid v, r.playerVote.find? guid = some v ∧ v.eligible = true ∧ v.recorded = false

/-- The invariant of a live roll.  After a second vote of one player the totals are too high, but
never too low, so that the closing test can only come early. -/
structure Roll.Pending (r : Roll) : Prop where
  need : r.playerVote.countP RollVote.isNeed ≤ r.totalNeed.toNat
  greed : r.playerVote.countP RollVote.isGreed ≤ r.totalGreed.toNat
  pass : r.playerVote.countP RollVote.isPass ≤ r.totalPass.toNat
  players : r.totalPlayersRolling.toNat = r.playerVote.size
  entitled : ∀ guid v, r.playerVote.find? guid = some v → v.eligible = true
  room : r.totalPass.toNat + r.totalNeed.toNat + r.totalGreed.toNat ≤ 254
  waits : r.Waits

namespace Roll.Pending

variable {r : Roll} {p guid choice : Nat}

theorem waits_of_lt (h1 : r.playerVote.countP RollVote.isNeed ≤ r.totalNeed.toNat)
    (h2 : r.playerVote.countP RollVote.isGreed ≤ r.totalGreed.toNat)
    (h3 : r.playerVote.countP RollVote.isPass ≤ r.totalPass.toNat)
    (he : ∀ guid v, r.playerVote.find? guid = some v → v.eligible = true)
    (hlt : r.totalPass.toNat + r.totalNeed.toNat + r.totalGreed.toNat < r.playerVote.size) :
    r.Waits := by
  have hc : r.playerVote.countP RollVote.recorded < r.playerVote.size := by
    rw [Roll.Tallied.recorded_count]; omega
  obtain ⟨g, v, hf, hv⟩ := OrdMap.countP_lt_size.mp hc
  exact ⟨g, v, hf, he g v hf, hv⟩

theorem count_vote {v : RollVote} (h : (r.playerVote.find? p).isSome) {q : RollVote → Bool}
    {t : UInt8} (ht : r.playerVote.countP q ≤ t.toNat) (hroom : t.toNat ≤ 254) :
    (r.playerVote.set p v).countP q ≤ (if q v then t + 1 else t).toNat ∧
      (if q v then t + 1 else t).toNat = t.toNat + if q v then 1 else 0 := by
  obtain ⟨old, hold⟩ := Option.isSome_iff_exists.mp h
  have hset := OrdMap.countP_set_of_some (v := v) (p := q) hold
  cases hq : q v with
  | false => simp only [hq, Bool.false_eq_true, if_false] at hset ⊢; omega
  | true =>
    simp only [hq, if_true] at hset ⊢
    rw [byte_inc (by omega)]
    omega

theorem set_size {v : RollVote} (h : (r.playerVote.find? p).isSome) :
    (r.playerVote.set p v).size = r.playerVote.size := by
  obtain ⟨old, hold⟩ := Option.isSome_iff_exists.mp h
  have hset := OrdMap.countP_set_of_some (v := v) (p := fun _ => true) hold
  simpa [OrdMap.size_eq_countP] using hset

theorem set_entitled {v : RollVote} (h : r.Pending) (hv : v.eligible = true) :
    ∀ g v', (r.playerVote.set p v).find? g = some v' → v'.eligible = true := by
  intro g v' hf
  by_cases hg : g = p
  · subst hg
    rw [OrdMap.find?_set_same] at hf
    cases hf
    exact hv
  · rw [OrdMap.find?_set_ne hg] at hf
    exact h.entitled g v' hf

theorem cast (h : r.Pending) (hp : (r.playerVote.find? p).isSome)
    (hc : (r.cast p choice).allCounted = false) : (r.cast p choice).Pending := by
  have hroom := h.room
  -- the vote `v` raises the totals of its kinds by one
  have all : ∀ v : RollVote, v.eligible = true →
      (∀ r' : Roll, r'.playerVote = r.playerVote.set p v →
        r'.totalNeed = (if v.isNeed then r.totalNeed + 1 else r.totalNeed) →
        r'.totalGreed = (if v.isGreed then r.totalGreed + 1 else r.totalGreed) →
        r'.totalPass = (if v.isPass then r.totalPass + 1 else r.totalPass) →
        r'.totalPlayersRolling = r.totalPlayersRolling → r'.allCounted = false →
        r'.Pending) := by
    intro v hv r' hm hN hG hP hR hcnt
    obtain ⟨n1, n2⟩ := count_vote (v := v) hp h.need (by omega)
    obtain ⟨g1, g2⟩ := count_vote (v := v) hp h.greed (by omega)
    obtain ⟨p1, p2⟩ := count_vote (v := v) hp h.pass (by omega)
    have hs := set_size (v := v) hp
    have hlt := r.totalPlayersRolling.toNat_lt
    simp only [Roll.allCounted, hR, ge_iff_le, decide_eq_false_iff_not, not_le] at hcnt
    rw [← hm, ← hN] at n1
    rw [← hm, ← hG] at g1
    rw [← hm, ← hP] at p1
    have hpl : r'.totalPlayersRolling.toNat = r'.playerVote.size := by
      rw [hR, hm, hs]; exact h.players
    have hent : ∀ g v', r'.playerVote.find? g = some v' → v'.eligible = true :=
      hm ▸ h.set_entitled hv
    refine ⟨n1, g1, p1, hpl, hent, by omega, waits_of_lt n1 g1 p1 hent ?_⟩
    rw [← hpl, hR]
    exact hcnt
  simp only [Roll.cast] at hc ⊢
  split_ifs at hc ⊢
  · exact all .pass rfl _ rfl rfl rfl rfl rfl hc
  · exact all .need rfl _ rfl rfl rfl rfl rfl hc
  · exact all .greed rfl _ rfl rfl rfl rfl rfl hc
  · exact all .disenchant rfl _ rfl rfl rfl rfl rfl hc
  · exact h

theorem count_drop {v : RollVote} (hp : r.playerVote.find? guid = some v) {q : RollVote → Bool}
    {t : UInt8} (ht : r.playerVote.countP q ≤ t.toNat) :
    (r.playerVote.erase guid).countP q ≤ (if q v then t - 1 else t).toNat ∧
      (if q v then t - 1 else t).toNat ≤ t.toNat := by
  have herase := OrdMap.countP_erase (p := q) hp
  cases hq : q v with
  | false => simp only [hq, Bool.false_eq_true, if_false] at herase ⊢; omega
  | true =>
    simp only [hq, if_true] at herase ⊢
    rw [byte_dec (by omega)]
    omega

theorem dropVoter (h : r.Pending) (hw : (r.dropVoter guid).Waits) :
    (r.dropVoter guid).Pending := by
  cases hp : r.playerVote.find? guid with
  | none => rw [LootWorld.dropVoter_of_none hp]; exact h
  | some v =>
    have hv := h.entitled guid v hp
    have hne : v ≠ .notValid := by rintro rfl; exact absurd hv (by decide)
    obtain ⟨n1, n2⟩ := count_drop hp h.need
    obtain ⟨g1, g2⟩ := count_drop hp h.greed
    obtain ⟨p1, p2⟩ := count_drop hp h.pass
    have hs := OrdMap.countP_erase (p := fun _ => true) hp
    rw [← OrdMap.size_eq_countP, ← OrdMap.size_eq_countP] at hs
    simp only [if_true] at hs
    have hpl := h.players
    have hroom := h.room
    simp only [Roll.dropVoter, hp] at hw ⊢
    refine ⟨n1, g1, p1, ?_, ?_, ?_, hw⟩
    · simp only [hne, if_false]
      rw [byte_dec (by omega)]
      omega
    · intro g v' hf
      by_cases hg : g = guid
      · subst hg
        rw [OrdMap.find?_erase_same] at hf
        cases hf
      · rw [OrdMap.find?_erase_ne hg] at hf
        exact h.entitled g v' hf
    · dsimp only
      omega

end Roll.Pending

section Opening

variable {store : TemplateStore} {info : Nat → RollMember} {item : LootItem}

theorem enlistAll_find?_ne {ms : List Nat} {r : Roll} {g : Nat} (hg : g ∉ ms) :
    (ms.foldl (Roll.enlist store item info) r).playerVote.find? g = r.playerVote.find? g := by
  induction ms generalizing r with
  | nil => rfl
  | cons m ms ih =>
    have hne : g ≠ m := fun h => hg (h ▸ .head _)
    rw [List.foldl_cons, ih (fun h => hg (.tail _ h))]
    simp only [Roll.enlist]
    split
    · split <;> exact OrdMap.find?_set_ne hne
    · rfl

theorem enlistAll_waiting {ms : List Nat} {r : Roll} {g : Nat} (hnd : ms.Nodup) (hg : g ∈ ms)
    (he : entitled store info item g = true) (hp : (info g).passOnGroupLoot = false) :
    (ms.foldl (Roll.enlist store item info) r).playerVote.find? g = some .notEmitedYet := by
  induction ms generalizing r with
  | nil => cases hg
  | cons m ms ih =>
    obtain ⟨hm, hnd⟩ := List.nodup_cons.mp hnd
    rcases List.mem_cons.mp hg with rfl | hg
    · simp only [entitled] at he
      rw [List.foldl_cons, enlistAll_find?_ne hm]
      simp only [Roll.enlist, he, hp, if_true, Bool.false_eq_true, if_false]
      exact OrdMap.find?_set_same
    · exact ih hnd hg

theorem enlistAll_entitled {ms : List Nat} {r : Roll}
    (h : ∀ g v, r.playerVote.find? g = some v → v.eligible = true) :
    ∀ g v, (ms.foldl (Roll.enlist store item info) r).playerVote.find? g = some v →
      v.eligible = true := by
  induction ms generalizing r with
  | nil => exact h
  | cons m ms ih =>
    rw [List.foldl_cons]
    apply ih
    intro g v hf
    simp only [Roll.enlist] at hf
    split at hf
    · split at hf <;>
      · by_cases hg : g = m
        · subst hg
          rw [OrdMap.find?_set_same] at hf
          cases hf
          rfl
        · rw [OrdMap.find?_set_ne hg] at hf
          exact h g v hf
    · exact h g v hf

theorem OpenedFor.pending {g : Group} {l slot : Nat} {r : Roll}
    (h : OpenedFor store g info l slot item r) (hnd : g.memberMgr.Nodup)
    (hlen : g.memberMgr.length ≤ 255) {m : Nat} (hm : m ∈ g.memberMgr)
    (he : entitled store info item m = true) (hp : (info m).passOnGroupLoot = false) :
    r.Pending := by
  have ht := h.tallied hnd hlen
  have hent : ∀ guid v, r.playerVote.find? guid = some v → v.eligible = true := by
    rw [h.votes]
    exact enlistAll_entitled (by intro g v hf; cases hf)
  have hwait : r.playerVote.find? m = some .notEmitedYet := by
    rw [h.votes]; exact enlistAll_waiting hnd hm he hp
  have hsize : r.playerVote.countP RollVote.eligible = r.playerVote.size := by
    refine Nat.le_antisymm OrdMap.countP_le_size (Nat.not_lt.mp (fun hlt => ?_))
    obtain ⟨g', v, hf, hv⟩ := OrdMap.countP_lt_size.mp hlt
    rw [hent g' v hf] at hv
    cases hv
  have hrec : r.playerVote.countP RollVote.recorded < r.playerVote.size :=
    OrdMap.countP_lt_size.mpr ⟨m, _, hwait, rfl⟩
  rw [Roll.Tallied.recorded_count] at hrec
  have hlt := r.totalPlayersRolling.toNat_lt
  have hpl := ht.players
  have hN := ht.need
  have hG := ht.greed
  have hP := ht.pass
  exact ⟨hN.ge, hG.ge, hP.ge, by omega, hent, by omega, m, _, hwait, rfl, rfl⟩

end Opening

/-- The item in slot `k` of loot `l` exists and is released. -/
def ReleasedAt (w : LootWorld) (l k : Nat) : Prop :=
  ∃ item, (w.loots l).items[k]? = some item ∧ item.Released

section Free

variable {w : LootWorld} {l l' k slot : Nat} {res : RollResult}

theorem settle_released (hres : res ≠ .nothing) (hs : slot < (w.loots l).items.length) :
    ReleasedAt (w.settle l slot res) l slot := by
  have hget := List.getElem?_eq_getElem hs
  cases res with
  | give | waste =>
    refine ⟨{ (w.loots l).items[slot] with isLooted := true }, ?_, .inl rfl⟩
    simp [LootWorld.settle, Loot.takeItem, hget]
  | unblock =>
    refine ⟨{ (w.loots l).items[slot] with isBlocked := false }, ?_, .inr rfl⟩
    simp [LootWorld.settle, Loot.unblockItem, hget]
  | nothing => exact absurd rfl hres

theorem modify_released {f : LootItem → LootItem} {items : List LootItem} {j : Nat}
    (hf : ∀ i : LootItem, i.Released → (f i).Released)
    (h : ∃ i, items[k]? = some i ∧ i.Released) :
    ∃ i, (items.modify j f)[k]? = some i ∧ i.Released := by
  obtain ⟨i, hi, hr⟩ := h
  by_cases hjk : j = k
  · subst hjk
    exact ⟨f i, by simp [hi], hf i hr⟩
  · exact ⟨i, by rw [List.getElem?_modify_ne _ _ hjk]; exact hi, hr⟩

theorem settle_mono (h : ReleasedAt w l k) : ReleasedAt (w.settle l' slot res) l k := by
  have set : ∀ loot : Loot, (l = l' → ∃ i, loot.items[k]? = some i ∧ i.Released) →
      ReleasedAt (w.setLoot l' loot) l k := by
    intro loot hl
    by_cases hll : l = l'
    · have := hl hll
      subst hll
      simpa [ReleasedAt] using this
    · simpa only [ReleasedAt, LootWorld.setLoot_loots_ne hll] using h
  cases res with
  | give | waste =>
    refine set _ (fun hll => ?_)
    subst hll
    exact modify_released (fun i _ => .inl rfl) h
  | unblock =>
    refine set _ (fun hll => ?_)
    subst hll
    exact modify_released (fun i hr => .inr rfl) h
  | nothing => exact h

theorem countTheRoll_mono {env : RollEnv} {j : Nat} (h : ReleasedAt w l k) :
    ReleasedAt (w.countTheRoll j env) l k := by
  simp only [LootWorld.countTheRoll]
  split
  · exact h
  · split
    · exact h
    · exact settle_mono (w := w) h

theorem endRollLoop_mono {env : Nat → RollEnv} {n : Nat} (h : ReleasedAt w l k) :
    ReleasedAt (LootWorld.endRollLoop l' env n w) l k := by
  induction n generalizing w with
  | zero => exact h
  | succ n ih =>
    simp only [LootWorld.endRollLoop]
    split
    · exact h
    · split
      · exact h
      · exact ih (countTheRoll_mono h)

def RollsPlaced (w : LootWorld) : Prop :=
  ∀ r ∈ w.group.rollId, ∀ l, r.loot = some l → r.itemSlot < (w.loots l).items.length

theorem endRollLoop_released {env : Nat → RollEnv} {n : Nat}
    (hrel : ∀ r ∈ w.group.rollId, r.loot = some l → r.Releasable (env r.itemGUID))
    (hpl : RollsPlaced w) {r : Roll} (hr : r ∈ w.group.rollId) (hl : r.loot = some l') :
    r ∈ (LootWorld.endRollLoop l env n w).group.rollId ∨
      ReleasedAt (LootWorld.endRollLoop l env n w) l' r.itemSlot := by
  induction n generalizing w with
  | zero => exact .inl hr
  | succ n ih =>
    simp only [LootWorld.endRollLoop]
    split
    · exact .inl hr
    · rename_i k hk
      split
      · exact .inl hr
      · rename_i rk hrk
        obtain ⟨hlt, hp, _⟩ := List.findIdx?_eq_some_iff_getElem.mp hk
        obtain ⟨_, hrk'⟩ := List.getElem?_eq_some_iff.mp hrk
        rw [hrk'] at hp
        have hlk : rk.loot = some l := by simpa using hp
        have hmem := List.mem_of_getElem? hrk
        have heq := LootWorld.countTheRoll_eq (env rk.itemGUID) hrk hlk
        by_cases hin : r ∈ w.group.rollId.eraseIdx k
        · refine ih ?_ ?_ ?_
          · intro r' hr' hl'
            rw [heq] at hr'
            exact hrel r' (List.mem_of_mem_eraseIdx hr') hl'
          · intro r' hr' l₀ hl₀
            have hlen := (countTheRoll_later w l₀ k (env rk.itemGUID)).items.length_eq
            rw [← hlen]
            rw [heq] at hr'
            exact hpl r' (List.mem_of_mem_eraseIdx hr') l₀ hl₀
          · rw [heq]; exact hin
        · -- the roll that is counted now
          have hrr : r = rk := by
            obtain ⟨j, hj⟩ := List.mem_iff_getElem?.mp hr
            by_cases hjk : j = k
            · subst hjk; rw [hj] at hrk; exact Option.some.inj hrk
            · exact absurd (List.mem_eraseIdx_iff_getElem?.mpr ⟨j, hjk, hj⟩) hin
          subst hrr
          rw [hlk] at hl
          cases hl
          refine .inr (endRollLoop_mono ?_)
          rw [heq]
          exact settle_released (result_ne_nothing (hrel r hmem hlk)) (hpl r hmem l hlk)

end Free

/-! ## Runs -/

/-- What a step must respect for its rolls to close in time:
* a roll is opened among at most 255 members, one of whom at least may roll and does not pass by
  option;
* a roll that is counted, because a vote closes it or the timer expires, can be settled;
* a player leaves only rolls that still wait for somebody else, and the group is not disbanded while
  a roll is live. -/
def CloseOk (store : TemplateStore) (w : LootWorld) : LootEvent → Prop
  | .groupLoot l info => w.group.memberMgr.length ≤ 255 ∧ ∀ item ∈ (w.loots l).items,
      getsRoll store w.group info item = true →
        ∃ g ∈ w.group.memberMgr, entitled store info item g = true ∧
          (info g).passOnGroupLoot = false
  | .needBeforeGreed l info => w.group.memberMgr.length ≤ 255 ∧ ∀ item ∈ (w.loots l).items,
      getsRoll store w.group info item = true →
        ∃ g ∈ w.group.memberMgr, entitled store info item g = true ∧
          (info g).passOnGroupLoot = false
  | .vote p guid choice env => ∀ r ∈ w.group.rollId, r.itemGUID = guid → r.loot ≠ none →
      (r.cast p choice).allCounted = true → (r.cast p choice).Releasable env
  | .endRoll l env => ∀ r ∈ w.group.rollId, r.loot = some l → r.Releasable (env r.itemGUID)
  | .removeMember guid kick online lfgOutside _ =>
      (w.group.removeMember guid kick online lfgOutside = .disbanded →
        ∀ r ∈ w.group.rollId, r.loot = none) ∧
      ∀ r ∈ w.group.rollId, r.loot ≠ none → r.playerVote.find? guid ≠ none →
        (r.dropVoter guid).Waits
  | _ => True

structure RollsInv (w : LootWorld) : Prop where
  wf : RollsWF w
  placed : RollsPlaced w
  pending : ∀ r ∈ w.group.rollId, r.loot ≠ none → r.Pending

section Runs

variable {store : TemplateStore} {w : LootWorld} {e : LootEvent}

theorem not_refilled_of_loot {l : Nat} {r : Roll} (hr : r ∈ (w.step store e).group.rollId)
    (hl : r.loot = some l) : ¬ e.refills l := by
  have clear : r ∈ (w.clearLoot l).group.rollId → False := by
    intro hr
    rw [LootWorld.clearLoot_rollId] at hr
    obtain ⟨r', _, rfl⟩ := List.mem_map.mp hr
    split at hl
    · cases hl
    · rename_i h; exact h hl
  intro he
  cases e with
  | fillLoot l' gold drops owner looters =>
    cases (show l' = l from he)
    rw [LootWorld.step, (LootWorld.fillLoot_frame w store _ gold drops owner looters).1] at hr
    exact clear hr
  | clearLoot l' =>
    cases (show l' = l from he)
    exact clear hr
  | _ => exact he

theorem placed_step (hi : RollsInv w) : RollsPlaced (w.step store e) := by
  intro r hr l hl
  have hkept : LootLater (w.loots l) ((w.step store e).loots l) :=
    step_kept hi.wf (not_refilled_of_loot hr hl)
  rw [← hkept.items.length_eq]
  cases LootWorld.roll_step hi.wf e hr with
  | kept hold => exact hi.placed r hold l hl
  | cleared hold => cases hl
  | voted hk _ _ _ =>
    have h := hi.placed _ (List.mem_of_getElem? hk) l (by simpa using hl)
    simpa using h
  | left hold =>
    have h := hi.placed _ hold l (by simpa using hl)
    simpa using h
  | opened he hitem ho =>
    have h := ho.loot
    rw [hl] at h
    cases h
    rw [ho.slot]
    exact (List.getElem?_eq_some_iff.mp hitem).1

theorem opened_pending (hi : RollsInv w) {l slot : Nat} {info : Nat → RollMember}
    {item : LootItem} {r : Roll} (hok : w.group.memberMgr.length ≤ 255 ∧
      ∀ item ∈ (w.loots l).items, getsRoll store w.group info item = true →
        ∃ g ∈ w.group.memberMgr, entitled store info item g = true ∧
          (info g).passOnGroupLoot = false)
    (hitem : (w.loots l).items[slot]? = some item)
    (ho : OpenedFor store w.group info l slot item r) : r.Pending := by
  obtain ⟨m, hm, he, hp⟩ := hok.2 item (List.mem_of_getElem? hitem) ho.getsRoll
  exact ho.pending hi.wf.linked hok.1 hm he hp

theorem pending_step (hi : RollsInv w) (hok : CloseOk store w e) :
    ∀ r ∈ (w.step store e).group.rollId, r.loot ≠ none → r.Pending := by
  intro r hr hl
  cases LootWorld.roll_step hi.wf e hr with
  | kept hold => exact hi.pending r hold hl
  | cleared hold => exact absurd rfl hl
  | voted hk hlr hv hc =>
    exact (hi.pending _ (List.mem_of_getElem? hk) (by simp [hlr])).cast hv hc
  | @left guid kick lfgOutside online env r' hold =>
    have hl' : r'.loot ≠ none := by simpa using hl
    by_cases hf : r'.playerVote.find? guid = none
    · rw [LootWorld.dropVoter_of_none hf]; exact hi.pending r' hold hl'
    · exact (hi.pending r' hold hl').dropVoter (hok.2 r' hold hl' hf)
  | opened he hitem ho =>
    rcases he with rfl | rfl
    · exact opened_pending hi hok hitem ho
    · exact opened_pending hi hok hitem ho

theorem close_step (hi : RollsInv w) (hok : CloseOk store w e) : RollsInv (w.step store e) :=
  ⟨LootWorld.step_wf hi.wf e, placed_step hi, pending_step hi hok⟩

theorem gone_released (hi : RollsInv w) (hok : CloseOk store w e) {r : Roll} {l : Nat}
    (hr : r ∈ w.group.rollId) (hl : r.loot = some l)
    (hgone : ∀ r' ∈ (w.step store e).group.rollId, r'.itemGUID ≠ r.itemGUID) :
    ReleasedAt (w.step store e) l r.itemSlot := by
  have stays : r ∈ (w.step store e).group.rollId → ReleasedAt (w.step store e) l r.itemSlot :=
    fun h => absurd rfl (hgone r h)
  have cleared : ∀ l', (w.step store e).group.rollId = (w.clearLoot l').group.rollId →
      ReleasedAt (w.step store e) l r.itemSlot := by
    intro l' h
    refine absurd ?_ (hgone (if r.loot = some l' then { r with loot := none } else r) ?_)
    · split <;> rfl
    · rw [h, LootWorld.clearLoot_rollId]
      exact List.mem_map.mpr ⟨r, hr, rfl⟩
  cases e with
  | fillLoot l' gold drops owner looters =>
    exact cleared l' (by rw [LootWorld.step, (LootWorld.fillLoot_frame w store l' gold drops owner
      looters).1])
  | clearLoot l' => exact cleared l' rfl
  | groupLoot l' info => exact stays (List.mem_append_left _ hr)
  | needBeforeGreed l' info =>
    refine stays ?_
    simp only [LootWorld.step, LootWorld.needBeforeGreed]
    split
    · exact List.mem_append_left _ hr
    · exact hr
  | storeLootItem l' slot guid b =>
    exact stays (by rw [LootWorld.step, LootWorld.storeLootItem_group]; exact hr)
  | masterGive l' slot giver target b =>
    refine stays ?_
    simp only [LootWorld.step]
    cases hg : w.handleLootMasterGive l' slot giver target b with
    | none => exact hr
    | some w' => rw [Option.getD_some, (LootWorld.masterGive_frame hg).1]; exact hr
  | lootMoney l' => exact stays hr
  | vote p guid choice env =>
    rw [LootWorld.step] at hgone stays ⊢
    rcases LootWorld.countRollVote_cases w p guid choice env with h' | ⟨k, rk, l', hv⟩
    · rw [h'] at hgone
      exact absurd rfl (hgone r hr)
    · rw [hv.step] at hgone stays ⊢
      obtain ⟨j, hj⟩ := List.mem_iff_getElem?.mp hr
      by_cases hjk : j = k
      · subst hjk
        rw [hv.at_k] at hj
        cases hj
        rw [hv.loot] at hl
        cases hl
        cases hc : (r.cast p choice).allCounted with
        | true =>
          rw [if_pos rfl]
          have hrel := hok r hr hv.item (by simp [hv.loot]) hc
          exact settle_released (result_ne_nothing hrel) (hi.placed r hr l hv.loot)
        | false =>
          rw [hc, if_neg (by decide)] at hgone
          refine absurd LootWorld.cast_itemGUID (hgone (r.cast p choice) ?_)
          exact List.mem_set (List.getElem?_eq_some_iff.mp hv.at_k).1 _
      · refine stays ?_
        split
        · exact List.mem_eraseIdx_iff_getElem?.mpr ⟨j, hjk, hj⟩
        · rw [LootWorld.setRolls_rollId]
          exact List.mem_of_getElem? ((List.getElem?_set_ne (Ne.symm hjk)).trans hj)
  | endRoll l' env =>
    rcases endRollLoop_released (n := w.group.rollId.length) hok hi.placed hr hl with h | h
    · exact stays h
    · exact h
  | addMember guid =>
    refine stays ?_
    simp only [LootWorld.step]
    split
    · rename_i g hg
      rw [LootWorld.setGroup, (addMember_frame hg).2]; exact hr
    · exact hr
  | login guid => exact stays hr
  | logout guid => exact stays hr
  | removeMember guid kick online lfgOutside env =>
    obtain ⟨_, _, ⟨_, hc⟩ | ⟨hd, _, _⟩ | ⟨_, hc, _⟩⟩ :=
      LootWorld.removeMember_rolls hi.wf guid kick online lfgOutside env
    · exact stays (by rw [LootWorld.step, hc]; exact hr)
    · rw [hok.1 hd r hr] at hl
      cases hl
    · refine absurd LootWorld.dropVoter_itemGUID (hgone (r.dropVoter guid) ?_)
      rw [LootWorld.step, hc]
      exact List.mem_map.mpr ⟨r, hr, rfl⟩

/-- In a run that keeps to `CloseOk`, every live roll waits for an eligible voter, and a step that
ends a live roll frees its item, handed out or unblocked. -/
theorem roll_closes {es : List LootEvent} (h : Run (LootWorld.step store) (CloseOk store) {} es w) :
    (∀ r ∈ w.group.rollId, r.loot ≠ none → r.Waits) ∧
    ∀ e, CloseOk store w e → ∀ r ∈ w.group.rollId, ∀ l, r.loot = some l →
      (∀ r' ∈ (w.step store e).group.rollId, r'.itemGUID ≠ r.itemGUID) →
      ReleasedAt (w.step store e) l r.itemSlot := by
  have hi : RollsInv w := h.invariant (I := RollsInv) (fun _ _ hi hok => close_step hi hok)
    ⟨LootWorld.init_wf, (by intro r hr; cases hr), (by intro r hr; cases hr)⟩
  exact ⟨fun r hr hl => (hi.pending r hr hl).waits,
    fun e hok r hr l hl hgone => gone_released hi hok hr hl hgone⟩

end Runs

theorem waits_iff {r : Roll} :
    r.Waits ↔ 0 < r.playerVote.countP (fun v => v.eligible && !v.recorded) := by
  rw [OrdMap.countP, List.countP_pos_iff]
  constructor
  · rintro ⟨g, v, hf, he, hr⟩
    exact ⟨(g, v), OrdMap.find?_eq_some.mp hf, by simp [he, hr]⟩
  · rintro ⟨x, hx, hp⟩
    simp only [Bool.and_eq_true, Bool.not_eq_true'] at hp
    exact ⟨x.1, x.2, OrdMap.find?_eq_some.mpr hx, hp.1, hp.2⟩

instance (r : Roll) : Decidable r.Waits := decidable_of_iff _ waits_iff.symm

instance (r : Group.Removal) : Decidable (r = .disbanded) :=
  match r with
  | .refused => .isFalse (by simp)
  | .removed _ => .isFalse (by simp)
  | .disbanded => .isTrue rfl

instance (store : TemplateStore) (w : LootWorld) : (e : LootEvent) → Decidable (CloseOk store w e)
  | .groupLoot .. => by unfold CloseOk; infer_instance
  | .needBeforeGreed .. => by unfold CloseOk; infer_instance
  | .vote .. => by unfold CloseOk; infer_instance
  | .endRoll .. => by unfold CloseOk; infer_instance
  | .removeMember .. => by unfold CloseOk; infer_instance
  | .fillLoot .. | .clearLoot .. | .storeLootItem .. | .masterGive .. | .lootMoney .. | .addMember ..
  | .login .. | .logout .. => .isTrue trivial

/-- Players 1 and 2 vote, 3 leaves, and 4 is still asked. -/
theorem roll_closes_four :
    let w := (sampleRoll ++ [LootEvent.vote 1 1 1 sampleEnv, .vote 2 1 2 sampleEnv,
      .removeMember 3 false (fun _ => true) false (fun _ => sampleEnv)]).foldl
      (LootWorld.step sampleStore) {}
    w.group.rollId.length = 1 ∧ ∀ r ∈ w.group.rollId, r.loot ≠ none → r.Waits :=
  ⟨by decide, (roll_closes (Admitted.run (by decide))).1⟩

/-- Players 1, 2 and 3 vote and 4, whom the roll waits for, leaves: the roll stays open with every
remaining vote recorded, and its item stays blocked. -/
theorem roll_stalls :
    let w := (sampleRoll ++ [LootEvent.vote 1 1 1 sampleEnv, .vote 2 1 2 sampleEnv,
      .vote 3 1 0 sampleEnv, .removeMember 4 false (fun _ => true) false
        (fun _ => sampleEnv)]).foldl (LootWorld.step sampleStore) {}
    (∃ r ∈ w.group.rollId, r.loot = some 0 ∧ ¬ r.Waits ∧ r.playerVote.size = 3) ∧
      ((w.loots 0).items.map (fun i => (i.isBlocked, i.isLooted))) = [(true, false)] := by
  decide

end SkyfireBG
