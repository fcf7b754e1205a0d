import SkyfireBG.Group.RollStep

/-!
# SkyfireBG.Group.RollLaw

One call of `CountTheRoll` on any roll, for any votes, totals and numbers drawn.

* `Roll.announced`      — the player and the number in `SendLootRollWon`.
* `CountedRight`        — the right player wins, and nobody is left with a blocked item.
* `countedRight_iff`    — when that is so: the totals agree with the votes and the winner is online,
  and has room for what he disenchants to.
-/

namespace SkyfireBG

variable {r : Roll} {env : RollEnv} {draw : Nat → Nat} {kind : RollVote → Bool} {g g' : Nat}

/-- The arguments `maxguid` and `maxresul` of `SendLootRollWon`. -/
def Roll.announced (r : Roll) (env : RollEnv) : Option (Nat × Nat) :=
  if r.totalNeed > 0 then
    (r.winner RollVote.isNeed env.draw).map fun t => (t.maxguid, t.maxresul)
  else if r.totalGreed > 0 then
    (r.winner RollVote.isGreed env.draw).map fun t => (t.maxguid, t.maxresul)
  else none

def Roll.Has (r : Roll) (kind : RollVote → Bool) : Prop :=
  ∃ g v, r.playerVote.find? g = some v ∧ kind v = true

/-- `g` voted so, and nobody who did drew more. -/
def Roll.Best (r : Roll) (kind : RollVote → Bool) (draw : Nat → Nat) (g : Nat) : Prop :=
  (∃ v, r.playerVote.find? g = some v ∧ kind v = true) ∧
    ∀ g' v', r.playerVote.find? g' = some v' → kind v' = true → draw g' ≤ draw g

def Roll.Wins (r : Roll) (draw : Nat → Nat) (g : Nat) : Prop :=
  r.Best RollVote.isNeed draw g ∨ ¬ r.Has RollVote.isNeed ∧ r.Best RollVote.isGreed draw g

def Roll.Winner (r : Roll) (draw : Nat → Nat) (g : Nat) : Prop :=
  r.Tops RollVote.isNeed draw g ∨ ¬ r.Has RollVote.isNeed ∧ r.Tops RollVote.isGreed draw g

/-- `g` can be given what he wins: he is online, and who disenchants has room for what comes of it. -/
def Roll.Served (r : Roll) (env : RollEnv) (g : Nat) : Prop :=
  env.online g = true ∧ (r.playerVote.find? g = some .disenchant → env.canStore g = true)

structure Roll.TotalsAgree (r : Roll) : Prop where
  need : 0 < r.totalNeed ↔ r.Has RollVote.isNeed
  greed : ¬ r.Has RollVote.isNeed → (0 < r.totalGreed ↔ r.Has RollVote.isGreed)

theorem Roll.Tops.best (h : r.Tops kind draw g) : r.Best kind draw g := by
  obtain ⟨v, hv, hkind, -, hall⟩ := h
  refine ⟨⟨v, hv, hkind⟩, fun g' v' hv' hkind' => ?_⟩
  rcases hall g' v' hv' hkind' with hlt | ⟨heq, -⟩
  · exact hlt.le
  · exact heq.le

theorem Roll.Best.has (h : r.Best kind draw g) : r.Has kind := by
  obtain ⟨⟨v, hv, hkind⟩, -⟩ := h
  exact ⟨g, v, hv, hkind⟩

theorem Roll.Winner.wins (h : r.Winner draw g) : r.Wins draw g :=
  h.imp Roll.Tops.best (And.imp_right Roll.Tops.best)

theorem Roll.Best.not_greed (hneed : r.Best RollVote.isNeed draw g)
    (hgreed : r.Best RollVote.isGreed draw' g) : False := by
  obtain ⟨⟨v, hv, hkind⟩, -⟩ := hneed
  obtain ⟨⟨v', hv', hkind'⟩, -⟩ := hgreed
  rw [hv] at hv'
  cases hv'
  cases v <;> simp [RollVote.isNeed, RollVote.isGreed] at hkind hkind'

theorem winner_cases {t : TopRoll} (hdraw : ∀ g, 1 ≤ draw g) (h : r.winner kind draw = some t) :
    (r.Tops kind draw t.maxguid ∧ kind t.rollvote = true ∧ t.maxresul = draw t.maxguid ∧
        r.playerVote.find? t.maxguid = some t.rollvote) ∨
      (¬ r.Has kind ∧ t.maxresul = 0 ∧ t.rollvote = .notValid) := by
  obtain ⟨e, es, -, hleads⟩ := winner_leads h
  rcases winner_spec h with ⟨htops, hkind⟩ | ⟨⟨hzero, -, -⟩, hvote⟩
  · refine .inl ⟨htops, hkind, ?_⟩
    obtain ⟨v, hv, hkv, -, -⟩ := htops
    rcases hleads with ⟨-, hz⟩ | ⟨hmem, -, hresul, -⟩
    · have hdrawn := hz (t.maxguid, v) (OrdMap.find?_eq_some.mp hv) hkv
      have hpos := hdraw t.maxguid
      simp only at hdrawn
      omega
    · exact ⟨hresul, OrdMap.find?_eq_some.mpr hmem⟩
  · have hnone : ¬ r.Has kind := by
      rintro ⟨g, v, hv, hkv⟩
      have hdrawn := hzero g v hv hkv
      have hpos := hdraw g
      omega
    refine .inr ⟨hnone, ?_, hvote⟩
    rcases hleads with ⟨rfl, -⟩ | ⟨hmem, hkind, -, -, -⟩
    · rfl
    · exact absurd ⟨t.maxguid, t.rollvote, OrdMap.find?_eq_some.mpr hmem, hkind⟩ hnone

theorem winner_eq_none (h : r.winner kind draw = none) : ¬ r.Has kind := by
  rintro ⟨g, v, hv, -⟩
  have hsome : (r.winner kind draw).isSome := winner_isSome hv
  rw [h] at hsome
  cases hsome

/-- What `CountTheRoll` should do, in terms of what it announces and does with the item. -/
structure Roll.Right (r : Roll) (env : RollEnv) : Prop where
  winner : r.Has RollVote.isNeed ∨ r.Has RollVote.isGreed →
    ∃ g, r.announced env = some (g, env.draw g) ∧ r.Wins env.draw g
  passed : ¬ r.Has RollVote.isNeed → ¬ r.Has RollVote.isGreed → r.announced env = none
  given : ∀ g, r.result env = .give g → r.Wins env.draw g
  released : r.result env ≠ .nothing ∧ r.result env ≠ .waste

theorem not_right_of_zero (hdraw : ∀ g, 1 ≤ env.draw g) (h : r.announced env = some (g, 0)) :
    ¬ r.Right env := by
  intro hright
  by_cases hvotes : r.Has RollVote.isNeed ∨ r.Has RollVote.isGreed
  · obtain ⟨g', hg', -⟩ := hright.winner hvotes
    rw [h, Option.some.injEq, Prod.mk.injEq] at hg'
    have hpos := hdraw g'
    omega
  · have hpassed := hright.passed (fun hn => hvotes (.inl hn)) (fun hg => hvotes (.inr hg))
    rw [h] at hpassed
    cases hpassed

/-- Where a right winner is announced and gets the item unless he has no room, all depends on
whether he can be served. -/
theorem right_of_winner (hagree : r.TotalsAgree) (hwinner : ∀ g', r.Winner env.draw g' ↔ g' = g)
    (hannounced : r.announced env = some (g, env.draw g))
    (hvotes : r.Has RollVote.isNeed ∨ r.Has RollVote.isGreed)
    (hoff : ¬ r.Served env g → r.result env = .nothing ∨ r.result env = .waste)
    (hon : r.Served env g → r.result env = .give g ∨ r.result env = .unblock) :
    r.Right env ↔ r.TotalsAgree ∧ ∀ g, r.Winner env.draw g → r.Served env g := by
  have hwins := ((hwinner g).mpr rfl).wins
  constructor
  · intro h
    refine ⟨hagree, fun g' hg' => ?_⟩
    rw [(hwinner g').mp hg']
    by_contra hne
    exact (hoff hne).elim h.released.1 h.released.2
  · rintro ⟨-, hserved⟩
    have hresult := hon (hserved g ((hwinner g).mpr rfl))
    refine ⟨fun _ => ⟨g, hannounced, hwins⟩, fun hn hg => ?_, fun g' hg' => ?_, ?_⟩
    · exact absurd hvotes (fun hor => hor.elim hn hg)
    · rcases hresult with hgive | hunblock
      · rw [hgive] at hg'
        cases hg'
        exact hwins
      · rw [hunblock] at hg'
        cases hg'
    · rcases hresult with h | h <;> simp [h]

theorem right_of_need (hdraw : ∀ g, 1 ≤ env.draw g) (hneed : 0 < r.totalNeed) :
    r.Right env ↔ r.TotalsAgree ∧ ∀ g, r.Winner env.draw g → r.Served env g := by
  have hannounced : r.announced env =
      (r.winner RollVote.isNeed env.draw).map fun t => (t.maxguid, t.maxresul) := by
    rw [Roll.announced, if_pos hneed]
  cases ht : r.winner RollVote.isNeed env.draw with
  | none =>
    have hresult : r.result env = .nothing := by simp [Roll.result, hneed, ht]
    refine ⟨fun h => absurd hresult h.released.1, fun h => ?_⟩
    exact absurd (h.1.need.mp hneed) (winner_eq_none ht)
  | some t =>
    rw [ht, Option.map_some] at hannounced
    rcases winner_cases hdraw ht with ⟨htops, hkind, hnumber, hvoted⟩ | ⟨hnone, hzero, -⟩
    · have hserved : r.Served env t.maxguid ↔ env.online t.maxguid = true := by
        refine ⟨And.left, fun hon => ⟨hon, fun hdis => ?_⟩⟩
        rw [hvoted, Option.some.injEq] at hdis
        rw [hdis] at hkind
        cases hkind
      have hhas := htops.best.has
      rw [hnumber] at hannounced
      refine right_of_winner ⟨⟨fun _ => hhas, fun _ => hneed⟩, fun hn => absurd hhas hn⟩
        (fun g' => ⟨fun hg' => ?_, fun hg' => ?_⟩) hannounced (.inl hhas) (fun hoff => ?_)
        fun hon => ?_
      · exact (hg'.resolve_right fun h => h.1 hhas).unique htops
      · rw [hg']
        exact .inl htops
      · rw [hserved, Bool.not_eq_true] at hoff
        simp [Roll.result, hneed, ht, hoff]
      · rw [hserved] at hon
        cases hroom : env.canStore t.maxguid <;> simp [Roll.result, hneed, ht, hon, hroom]
    · rw [hzero] at hannounced
      exact ⟨fun h => absurd h (not_right_of_zero hdraw hannounced),
        fun h => absurd (h.1.need.mp hneed) hnone⟩

theorem right_of_greed (hdraw : ∀ g, 1 ≤ env.draw g) (hneed : ¬ 0 < r.totalNeed)
    (hgreed : 0 < r.totalGreed) :
    r.Right env ↔ r.TotalsAgree ∧ ∀ g, r.Winner env.draw g → r.Served env g := by
  have hannounced : r.announced env =
      (r.winner RollVote.isGreed env.draw).map fun t => (t.maxguid, t.maxresul) := by
    rw [Roll.announced, if_neg hneed, if_pos hgreed]
  cases ht : r.winner RollVote.isGreed env.draw with
  | none =>
    have hresult : r.result env = .nothing := by simp [Roll.result, hneed, hgreed, ht]
    refine ⟨fun h => absurd hresult h.released.1, fun h => ?_⟩
    exact absurd ((h.1.greed (h.1.need.not.mp hneed)).mp hgreed) (winner_eq_none ht)
  | some t =>
    rw [ht, Option.map_some] at hannounced
    rcases winner_cases hdraw ht with ⟨htops, hkind, hnumber, hvoted⟩ | ⟨hnone, hzero, -⟩
    · have hhas := htops.best.has
      rw [hnumber] at hannounced
      by_cases hboth : r.Has RollVote.isNeed
      · -- a need vote that was not counted
        refine ⟨fun h => ?_, fun h => absurd (h.1.need.mpr hboth) hneed⟩
        obtain ⟨g, hg, hwins⟩ := h.winner (.inl hboth)
        rw [hannounced, Option.some.injEq, Prod.mk.injEq] at hg
        have hbest := hwins.resolve_right fun h => h.1 hboth
        rw [← hg.1] at hbest
        exact absurd htops.best hbest.not_greed
      · refine right_of_winner ⟨⟨fun h => absurd h hneed, fun h => absurd h hboth⟩,
          fun _ => ⟨fun _ => hhas, fun _ => hgreed⟩⟩ (fun g' => ⟨fun hg' => ?_, fun hg' => ?_⟩)
          hannounced (.inr hhas) (fun hoff => ?_) fun hon => ?_
        · rcases hg' with hg' | ⟨-, hg'⟩
          · exact absurd hg'.best.has hboth
          · exact hg'.unique htops
        · rw [hg']
          exact .inr ⟨hboth, htops⟩
        · unfold Roll.Served at hoff
          cases hon : env.online t.maxguid with
          | false => simp [Roll.result, hneed, hgreed, ht, hon]
          | true =>
            simp only [hon, hvoted, Option.some.injEq, true_and, Classical.not_imp,
              Bool.not_eq_true] at hoff
            simp [Roll.result, hneed, hgreed, ht, hon, hoff.1, hoff.2]
        · cases hvote : t.rollvote with
          | greed =>
            cases hroom : env.canStore t.maxguid <;>
              simp [Roll.result, hneed, hgreed, ht, hon.1, hvote, hroom]
          | disenchant =>
            simp [Roll.result, hneed, hgreed, ht, hon.1, hvote, hon.2 (hvoted.trans (by rw [hvote]))]
          | pass | need | notEmitedYet | notValid =>
            rw [hvote] at hkind
            cases hkind
    · rw [hzero] at hannounced
      exact ⟨fun h => absurd h (not_right_of_zero hdraw hannounced),
        fun h => absurd ((h.1.greed (h.1.need.not.mp hneed)).mp hgreed) hnone⟩

theorem right_of_passed (hneed : ¬ 0 < r.totalNeed) (hgreed : ¬ 0 < r.totalGreed) :
    r.Right env ↔ r.TotalsAgree ∧ ∀ g, r.Winner env.draw g → r.Served env g := by
  have hannounced : r.announced env = none := by
    rw [Roll.announced, if_neg hneed, if_neg hgreed]
  have hresult : r.result env = .unblock := by simp [Roll.result, hneed, hgreed]
  constructor
  · intro h
    have hvotes : ¬ (r.Has RollVote.isNeed ∨ r.Has RollVote.isGreed) := by
      intro hvotes
      obtain ⟨g, hg, -⟩ := h.winner hvotes
      rw [hannounced] at hg
      cases hg
    refine ⟨⟨⟨fun h => absurd h hneed, fun h => absurd (.inl h) hvotes⟩,
      fun _ => ⟨fun h => absurd h hgreed, fun h => absurd (.inr h) hvotes⟩⟩, fun g hg => ?_⟩
    rcases hg.wins with hbest | ⟨-, hbest⟩
    · exact absurd (.inl hbest.has) hvotes
    · exact absurd (.inr hbest.has) hvotes
  · rintro ⟨hagree, -⟩
    have hno := hagree.need.not.mp hneed
    refine ⟨fun hvotes => ?_, fun _ _ => hannounced, fun g hg => ?_, ?_⟩
    · exact absurd hvotes (fun hor => hor.elim hno ((hagree.greed hno).not.mp hgreed))
    · rw [hresult] at hg
      cases hg
    · simp [hresult]

theorem right_iff (hdraw : ∀ g, 1 ≤ env.draw g) :
    r.Right env ↔ r.TotalsAgree ∧ ∀ g, r.Winner env.draw g → r.Served env g := by
  by_cases hneed : 0 < r.totalNeed
  · exact right_of_need hdraw hneed
  · by_cases hgreed : 0 < r.totalGreed
    · exact right_of_greed hdraw hneed hgreed
    · exact right_of_passed hneed hgreed

/-- After `CountTheRoll` on roll `r`, which holds item `slot` of loot `l`. -/
structure CountedRight (w : LootWorld) (k : Nat) (r : Roll) (l : Nat) (env : RollEnv) : Prop where
  /-- A player with the right vote and the highest number among such votes is announced. -/
  winner : r.Has RollVote.isNeed ∨ r.Has RollVote.isGreed →
    ∃ g, r.announced env = some (g, env.draw g) ∧ r.Wins env.draw g
  passed : ¬ r.Has RollVote.isNeed → ¬ r.Has RollVote.isGreed → r.announced env = none
  /-- One such player got the item, or nobody and it is available again. -/
  item : ∃ item, ((w.countTheRoll k env).loots l).items[r.itemSlot]? = some item ∧
    ((∃ g, r.Wins env.draw g ∧ item.isLooted = true ∧ (w.countTheRoll k env).given =
        ⟨l, false, r.itemSlot, false, g⟩ :: w.given) ∨
      item.isBlocked = false ∧ (w.countTheRoll k env).given = w.given)

/-- For any votes, totals and numbers from 1 to 100: the count does right if and only if the totals
agree with the votes and the winner can be served. -/
theorem countedRight_iff {w : LootWorld} {k l : Nat} {item : LootItem}
    (hk : w.group.rollId[k]? = some r) (hl : r.loot = some l)
    (hitem : (w.loots l).items[r.itemSlot]? = some item) (hblocked : item.isBlocked = true)
    (hdraw : ∀ g, 1 ≤ env.draw g ∧ env.draw g ≤ 100) :
    CountedRight w k r l env ↔
      r.TotalsAgree ∧ ∀ g, r.Winner env.draw g → r.Served env g := by
  rw [← right_iff fun g => (hdraw g).1]
  have hcount := LootWorld.countTheRoll_eq env hk hl
  have hsettled : (∃ item', ((w.countTheRoll k env).loots l).items[r.itemSlot]? = some item' ∧
      ((∃ g, r.Wins env.draw g ∧ item'.isLooted = true ∧ (w.countTheRoll k env).given =
          ⟨l, false, r.itemSlot, false, g⟩ :: w.given) ∨
        item'.isBlocked = false ∧ (w.countTheRoll k env).given = w.given)) ↔
      (∀ g, r.result env = .give g → r.Wins env.draw g) ∧ r.result env ≠ .nothing ∧ r.result env ≠ .waste := by
    rw [hcount]
    cases hresult : r.result env with
    | give g => simp [LootWorld.settle, Loot.takeItem, hitem]
    | unblock => simp [LootWorld.settle, Loot.unblockItem, hitem]
    | waste => simp [LootWorld.settle, Loot.takeItem, hitem, hblocked]
    | nothing => simp [LootWorld.settle, hitem, hblocked]
  constructor
  · rintro ⟨hwinner, hpassed, hitem'⟩
    obtain ⟨hgiven, hreleased⟩ := hsettled.mp hitem'
    exact ⟨hwinner, hpassed, hgiven, hreleased⟩
  · rintro ⟨hwinner, hpassed, hgiven, hreleased⟩
    exact ⟨hwinner, hpassed, hsettled.mpr ⟨hgiven, hreleased⟩⟩

def sampleCount : LootWorld :=
  (sampleRoll ++ [LootEvent.vote 1 1 1 sampleEnv, .vote 2 1 2 sampleEnv]).foldl
    (LootWorld.step sampleStore) {}

def sampleCounted : Roll := (sampleCount.group.rollId[0]?).getD (Roll.ofItem 0 { itemid := 0 })

theorem countedRight_one : CountedRight sampleCount 0 sampleCounted 0 sampleEnv := by
  have hneed : sampleCounted.Has RollVote.isNeed := ⟨1, .need, by decide, rfl⟩
  have hitem : (sampleCount.loots 0).items[sampleCounted.itemSlot]? =
      some { itemid := 7, isBlocked := true } := by decide
  refine (countedRight_iff rfl rfl hitem rfl fun _ =>
      (by decide : 1 ≤ 50 ∧ 50 ≤ 100)).mpr ⟨⟨⟨fun _ => hneed, fun _ => by decide⟩,
      fun hno => absurd hneed hno⟩, fun _ _ => ⟨rfl, fun _ => rfl⟩⟩

/-- The player who wins has left the game, and the item stays blocked. -/
theorem countTheRoll_offline : ¬ ∀ (w : LootWorld) (k l : Nat) (r : Roll) (item : LootItem)
    (env : RollEnv), w.group.rollId[k]? = some r → r.loot = some l →
      (w.loots l).items[r.itemSlot]? = some item → item.isBlocked = true →
      (∀ g, 1 ≤ env.draw g ∧ env.draw g ≤ 100) → CountedRight w k r l env := by
  intro hall
  obtain ⟨item, hitem, hor⟩ := (hall sampleCount 0 0 sampleCounted _
    { sampleEnv with online := fun _ => false } rfl rfl rfl rfl fun _ =>
      (by decide : 1 ≤ 50 ∧ 50 ≤ 100)).item
  have hleft : ((sampleCount.countTheRoll 0 { sampleEnv with online := fun _ => false }).loots
      0).items[sampleCounted.itemSlot]? = some { itemid := 7, isBlocked := true } := by decide
  rw [hleft, Option.some.injEq] at hitem
  subst hitem
  rcases hor with ⟨-, -, hlooted, -⟩ | ⟨hunblocked, -⟩
  · cases hlooted
  · cases hunblocked

end SkyfireBG
