import SkyfireBG.Lfg.Together

/-!
# SkyfireBG.Lfg.Search

`FindNewGroups` takes the guids of the queue in their order, each as soon as it goes with those
taken before: one that is taken stays.

* `findNewGroups_complete` — what is proposed is a party that lacks nobody; when there is such a
  party one is proposed exactly if taking the first that comes gives one.
-/

namespace SkyfireBG

namespace LfgWorld

variable {w : LfgWorld} {dice : Nat → Nat} {s s₀ s₁ s₂ : LfgQueue} {check all : List Nat}
  {p : LfgProposal} {fuel n : Nat}

theorem together_congr (hinfo : ∀ guid ∈ check, s.queueInfo guid = s₁.queueInfo guid)
    (h : Together w s check) : Together w s₁ check := by
  have hroles : s.rolesOfAll check = s₁.rolesOfAll check := by
    refine List.flatMap_congr fun guid hguid => ?_
    rw [LfgQueue.rolesOf, LfgQueue.rolesOf, hinfo guid hguid]
  have hplayers : s.playersOf check = s₁.playersOf check := congrArg (List.map Prod.fst) hroles
  obtain ⟨d, hd⟩ := h.dungeon
  refine ⟨fun guid hguid => ?_, h.oneGroup, hplayers ▸ h.room, hplayers ▸ h.once,
    hplayers ▸ h.online, hplayers ▸ h.peaceful, hroles ▸ h.roles, d, fun guid hguid => ?_,
    hplayers ▸ hd.2⟩
  · rw [isQueued, ← hinfo guid hguid]
    exact h.queued guid hguid
  · rw [LfgQueue.dungeonsOf, ← hinfo guid hguid]
    exact hd.1 guid hguid

theorem Proposes.congr (hinfo : ∀ guid ∈ check, s.queueInfo guid = s₁.queueInfo guid)
    (h : Proposes w s check p) : Proposes w s₁ check p := by
  have hplayers : s.playersOf check = s₁.playersOf check := by
    refine congrArg (List.map Prod.fst) (List.flatMap_congr fun guid hguid => ?_)
    rw [LfgQueue.rolesOf, LfgQueue.rolesOf, hinfo guid hguid]
  refine ⟨h.queues, ⟨together_congr hinfo h.matched.toTogether, hplayers ▸ h.matched.full⟩,
    ⟨fun guid hguid => ?_, hplayers ▸ h.dungeon.2⟩, hplayers ▸ h.players⟩
  rw [LfgQueue.dungeonsOf, ← hinfo guid hguid]
  exact h.dungeon.1 guid hguid

def SameQueued (w : LfgWorld) (s s₁ : LfgQueue) : Prop :=
  ∀ guid, s₁.queueInfo guid = s.queueInfo guid ∨
    (w.isQueued s guid = false ∧ w.isQueued s₁ guid = false)

theorem SameQueued.of_eq (h : s₁.queueInfo = s.queueInfo) : SameQueued w s s₁ :=
  fun guid => .inl (congrFun h guid)

theorem SameQueued.trans (h : SameQueued w s s₁) (h₁ : SameQueued w s₁ s₂) :
    SameQueued w s s₂ := by
  intro guid
  rcases h guid with heq | ⟨hnot, hnot₁⟩
  · rcases h₁ guid with heq₁ | ⟨hnot₁, hnot₂⟩
    · exact .inl (heq₁.trans heq)
    · rw [isQueued, heq] at hnot₁
      exact .inr ⟨hnot₁, hnot₂⟩
  · rcases h₁ guid with heq₁ | ⟨-, hnot₂⟩
    · rw [isQueued, ← heq₁] at hnot₁
      exact .inr ⟨hnot, hnot₁⟩
    · exact .inr ⟨hnot, hnot₂⟩

theorem SameQueued.eq_of_queued (h : SameQueued w s s₁)
    (hq : ∀ guid ∈ check, w.isQueued s₁ guid = true) :
    ∀ guid ∈ check, s₁.queueInfo guid = s.queueInfo guid := by
  intro guid hguid
  rcases h guid with heq | ⟨-, hnot⟩
  · exact heq
  · rw [hq guid hguid] at hnot
    cases hnot

theorem SameQueued.proposes (h : SameQueued w s s₁) (hp : Proposes w s₁ check p) :
    Proposes w s check p := hp.congr (h.eq_of_queued hp.matched.queued)

theorem sameQueued_removeFromQueue {guid : Nat} (h : w.isQueued s guid = false) :
    SameQueued w s (s.removeFromQueue guid) := by
  intro guid'
  by_cases hg : guid' = guid
  · subst hg
    refine .inr ⟨h, ?_⟩
    simp [isQueued, LfgQueue.removeFromQueue]
  · exact .inl (Function.update_of_ne hg _ _)

theorem sameQueued_checkAll (hne : check ≠ []) (pProposal : Option LfgProposal) :
    SameQueued w s (w.checkAll dice check pProposal s).queue := by
  rcases checkAll_cases (w := w) (s := s) dice hne pProposal with ⟨guid, -, hnot, heq⟩ |
      ⟨-, -, u, heq | heq⟩ | ⟨-, heq⟩ | ⟨-, -, u, heq⟩ | ⟨u, p, -, heq⟩
  · rw [heq]
    exact sameQueued_removeFromQueue hnot
  all_goals
    rw [heq]
    exact .of_eq rfl

/-- A proposal comes with the answer that all are compatible, and is for all: one that was made
for all but the first would leave no room for it. -/
theorem checkCompatibility_sound (w : LfgWorld) (dice : Nat → Nat) (check : List Nat)
    (s : LfgQueue) :
    SameQueued w s (w.checkCompatibility dice check none s).queue ∧
      ((w.checkCompatibility dice check none s).compatible = true →
        ∀ p, (w.checkCompatibility dice check none s).proposal = some p → Proposes w s check p) := by
  induction check generalizing s with
  | nil => exact ⟨.of_eq rfl, nofun⟩
  | cons front check ih =>
    have hne : front :: check ≠ [] := List.cons_ne_nil _ _
    rw [checkCompatibility, if_neg (by simp)]
    by_cases hlong : (front :: check).length > MAXGROUPSIZE
    · rw [if_pos hlong]
      exact ⟨.of_eq rfl, nofun⟩
    rw [if_neg hlong]
    by_cases hlone : check = [] ∧ isPlayerGuid front = true
    · rw [if_pos hlone]
      exact ⟨.of_eq rfl, fun _ => nofun⟩
    rw [if_neg hlone]
    cases s.compatibles (front :: check) with
    | some answer => exact ⟨.of_eq rfl, fun _ => nofun⟩
    | none =>
      dsimp only
      by_cases htwo : (front :: check).length > 2
      · rw [if_pos htwo]
        obtain ⟨hsame, hprop⟩ := ih s
        generalize w.checkCompatibility dice check none s = r at hsame hprop
        cases hr : r.compatible with
        | false => exact ⟨hsame.trans (.of_eq rfl), nofun⟩
        | true =>
          rw [if_pos rfl]
          refine ⟨hsame.trans (sameQueued_checkAll hne _), ?_⟩
          rcases checkAll_cases (w := w) (s := r.queue) dice hne r.proposal with
              ⟨guid, -, hnot, heq⟩ | ⟨-, -, u, heq | heq⟩ | ⟨⟨hone, -⟩, heq⟩ |
              ⟨htog, -, u, heq⟩ | ⟨u, p, hp, heq⟩
          · rw [heq]
            exact nofun
          · rw [heq]
            exact nofun
          · rw [heq]
            exact nofun
          · omega
          · rw [heq]
            intro _ p hp
            have hall : Together w s (front :: check) :=
              together_congr (hsame.eq_of_queued htog.queued) htog
            have hfull := (hprop hr p hp).matched.full
            have hroom := hall.room
            have hpos := rolesOf_pos (hall.queued front List.mem_cons_self)
            rw [length_playersOf_cons] at hroom
            omega
          · rw [heq]
            rintro - p' ⟨⟩
            exact hsame.proposes hp
      · rw [if_neg htwo]
        refine ⟨sameQueued_checkAll hne _, ?_⟩
        rcases checkAll_cases (w := w) (s := s) dice hne none with
            ⟨guid, -, hnot, heq⟩ | ⟨-, -, u, heq | heq⟩ | ⟨-, heq⟩ | ⟨-, -, u, heq⟩ |
            ⟨u, p, hp, heq⟩
        all_goals rw [heq]
        · exact nofun
        · exact nofun
        · exact nofun
        · exact fun _ => nofun
        · exact fun _ => nofun
        · rintro - p' ⟨⟩
          exact hp

/-- The search leaves a part of the list, and what it proposes are the guids it began with and
others of the list. -/
def FindsIn (w : LfgWorld) (s : LfgQueue) (check all : List Nat) (r : Found) : Prop :=
  SameQueued w s r.queue ∧ r.all.Sublist all ∧
    ∀ p, r.proposal = some p → ∃ found, found.Sublist all ∧ Proposes w s (check ++ found) p

theorem matchLoop_sound {find : List Nat → List Nat → LfgQueue → Found}
    (hfind : ∀ check all s, FindsIn w s check all (find check all s)) (n : Nat) {all₀ : List Nat}
    {pProposal : Option LfgProposal} (hsame : SameQueued w s₀ s) (hall : all.Sublist all₀)
    (hp : ∀ p, pProposal = some p → ∃ found, found.Sublist all₀ ∧ Proposes w s₀ (check ++ found) p) :
    FindsIn w s₀ check all₀ (matchLoop find check n all pProposal s) := by
  induction n generalizing all s pProposal with
  | zero => exact ⟨hsame, hall, hp⟩
  | succ n ih =>
    cases pProposal with
    | some p => exact ⟨hsame, hall, hp⟩
    | none =>
      cases all with
      | nil => exact ⟨hsame, hall, hp⟩
      | cons guid all =>
        obtain ⟨hsame', hall', hp'⟩ := hfind (check ++ [guid]) all s
        refine ih (hsame.trans hsame') (hall'.trans ((List.sublist_cons_self _ _).trans hall))
          fun p hp => ?_
        obtain ⟨found, hfound, hprop⟩ := hp' p hp
        refine ⟨guid :: found, (hfound.cons_cons guid).trans hall, hsame.proposes ?_⟩
        rwa [List.append_assoc] at hprop

theorem findGroups_sound (w : LfgWorld) (dice : Nat → Nat) (fuel : Nat) (check all : List Nat)
    (s : LfgQueue) : FindsIn w s check all (w.findGroups dice fuel check all s) := by
  induction fuel generalizing check all s with
  | zero => exact ⟨.of_eq rfl, .refl _, nofun⟩
  | succ fuel ih =>
    rw [findGroups]
    by_cases hsize : check = [] ∨ check.length > MAXGROUPSIZE
    · rw [if_pos hsize]
      exact ⟨.of_eq rfl, .refl _, nofun⟩
    rw [if_neg hsize]
    obtain ⟨hsame, hprop⟩ := checkCompatibility_sound w dice check s
    generalize w.checkCompatibility dice check none s = r at hsame hprop
    dsimp only
    cases hr : r.compatible with
    | false => exact ⟨hsame, .refl _, nofun⟩
    | true =>
      refine matchLoop_sound ih _ hsame (.refl _) fun p hp => ⟨[], List.nil_sublist _, ?_⟩
      rw [List.append_nil]
      exact hprop hr p hp

/-! ## What is found -/

def LonePlayer (check : List Nat) : Prop := ∃ guid, check = [guid] ∧ isPlayerGuid guid = true

/-- The answer of `CheckCompatibility` for guids that are queued, from the answers remembered when
the search begins. -/
def Accepted (w : LfgWorld) (s : LfgQueue) : List Nat → Prop
  | [] => False
  | front :: check =>
    (front :: check).length ≤ MAXGROUPSIZE ∧
      (LonePlayer (front :: check) ∨ s.compatibles (front :: check) = some true ∨
        s.compatibles (front :: check) = none ∧
          ((front :: check).length > 2 → Accepted w s check) ∧
          (Alone s (front :: check) ∨ Together w s (front :: check)))

/-- The party that is proposed when it is checked: not one that is known to be compatible. -/
def Hit (w : LfgWorld) (s : LfgQueue) (check : List Nat) : Prop :=
  Matched w s check ∧ s.compatibles check = none ∧ ¬ LonePlayer check

open Classical in
noncomputable def firstCome (w : LfgWorld) (s : LfgQueue) (check all : List Nat) : List Nat :=
  all.foldl (fun check guid => if Accepted w s (check ++ [guid]) then check ++ [guid] else check) check

/-- The answers in `s` are those in `s₀` and right ones. -/
structure Agrees (w : LfgWorld) (s₀ s : LfgQueue) : Prop where
  info : s.queueInfo = s₀.queueInfo
  answers : ∀ check, s.compatibles check = s₀.compatibles check ∨
    s₀.compatibles check = none ∧
      ∃ answer, s.compatibles check = some answer ∧ (answer = true ↔ Accepted w s₀ check)

theorem Agrees.refl (w : LfgWorld) (s : LfgQueue) : Agrees w s s := ⟨rfl, fun _ => .inl rfl⟩

theorem Agrees.none_of_none (h : Agrees w s₀ s) (hnone : s.compatibles check = none) :
    s₀.compatibles check = none := by
  rcases h.answers check with heq | ⟨hnone₀, -⟩
  · rw [← heq, hnone]
  · exact hnone₀

theorem Agrees.together_iff (h : Agrees w s₀ s) : Together w s check ↔ Together w s₀ check :=
  ⟨together_congr fun guid _ => congrFun h.info guid,
    together_congr fun guid _ => (congrFun h.info guid).symm⟩

theorem Agrees.playersOf_eq (h : Agrees w s₀ s) : s.playersOf check = s₀.playersOf check := by
  simp only [LfgQueue.playersOf, LfgQueue.rolesOfAll]
  refine congrArg (List.map Prod.fst) (List.flatMap_congr fun guid _ => ?_)
  rw [LfgQueue.rolesOf, LfgQueue.rolesOf, h.info]

theorem Agrees.draw (h : Agrees w s₀ s) (u : Nat) : Agrees w s₀ { s with used := u } :=
  ⟨h.info, h.answers⟩

theorem Agrees.setCompatibles (h : Agrees w s₀ s) (hnone : s₀.compatibles check = none)
    {answer : Bool} (ha : answer = true ↔ Accepted w s₀ check) (u : Nat) :
    Agrees w s₀ { s.setCompatibles check answer with used := u } := by
  refine ⟨h.info, fun key => ?_⟩
  by_cases hk : key = check
  · subst hk
    exact .inr ⟨hnone, answer, by simp [LfgQueue.setCompatibles], ha⟩
  · have hsame : (s.setCompatibles check answer).compatibles key = s.compatibles key :=
      Function.update_of_ne hk _ _
    rw [hsame]
    exact h.answers key

def AnswersFor (check : List Nat) (s s₁ : LfgQueue) : Prop :=
  ∀ key, s₁.compatibles key = s.compatibles key ∨ key <:+ check

theorem answersFor_setCompatibles (answer : Bool) (u : Nat) :
    AnswersFor check s { s.setCompatibles check answer with used := u } := by
  intro key
  by_cases hk : key = check
  · exact .inr (hk ▸ List.suffix_refl _)
  · exact .inl (Function.update_of_ne hk _ _)

theorem checkAll_spec (dice : Nat → Nat) {pProposal : Option LfgProposal} (hne : check ≠ [])
    (hq : ∀ guid ∈ check, w.isQueued s₀ guid = true) (h : Agrees w s₀ s)
    (hnone : s₀.compatibles check = none)
    (hacc : Accepted w s₀ check ↔ Alone s₀ check ∨ Together w s₀ check)
    (hprop : Accepted w s₀ check → pProposal = none) :
    ((w.checkAll dice check pProposal s).compatible = true ↔ Accepted w s₀ check) ∧
      (Accepted w s₀ check → ((w.checkAll dice check pProposal s).proposal.isSome = true ↔
        Matched w s₀ check)) ∧
      Agrees w s₀ (w.checkAll dice check pProposal s).queue ∧
      AnswersFor check s (w.checkAll dice check pProposal s).queue := by
  have halone : Alone s check ↔ Alone s₀ check := by
    rw [Alone, Alone, h.playersOf_eq]
  rcases checkAll_cases (w := w) (s := s) dice hne pProposal with ⟨guid, hguid, hnot, heq⟩ |
      ⟨hnot, hmore, u, hres⟩ | ⟨hone, heq⟩ | ⟨htog, hlack, u, heq⟩ | ⟨u, p, hp, heq⟩
  · rw [isQueued, h.info] at hnot
    have hyes := hq guid hguid
    rw [isQueued, hnot] at hyes
    cases hyes
  · have hrefused : ¬ Accepted w s₀ check := by
      rw [hacc, ← halone, ← h.together_iff]
      exact fun hor => hor.elim hmore hnot
    rcases hres with heq | heq
    all_goals rw [heq]
    · exact ⟨iff_of_false Bool.false_ne_true hrefused, fun hyes => absurd hyes hrefused, h.draw u,
        fun _ => .inl rfl⟩
    · exact ⟨iff_of_false Bool.false_ne_true hrefused, fun hyes => absurd hyes hrefused,
        h.setCompatibles hnone (iff_of_false Bool.false_ne_true hrefused) u, answersFor_setCompatibles _ u⟩
  · have hyes : Accepted w s₀ check := hacc.mpr (.inl (halone.mp hone))
    rw [heq]
    refine ⟨iff_of_true rfl hyes, fun _ => ?_, h, fun _ => .inl rfl⟩
    rw [hprop hyes]
    exact iff_of_false Bool.false_ne_true fun hm => (halone.mp hone).2 hm.full
  · have hyes : Accepted w s₀ check := hacc.mpr (.inr (h.together_iff.mp htog))
    rw [heq]
    refine ⟨iff_of_true rfl hyes, fun _ => ?_, h.setCompatibles hnone (iff_of_true rfl hyes) u,
      answersFor_setCompatibles _ u⟩
    rw [hprop hyes]
    exact iff_of_false Bool.false_ne_true fun hm => hlack (h.playersOf_eq ▸ hm.full)
  · have htog : Together w s₀ check := h.together_iff.mp hp.matched.toTogether
    have hyes : Accepted w s₀ check := hacc.mpr (.inr htog)
    rw [heq]
    refine ⟨iff_of_true rfl hyes, fun _ => ?_, h.setCompatibles hnone (iff_of_true rfl hyes) u,
      answersFor_setCompatibles _ u⟩
    exact iff_of_true rfl ⟨htog, h.playersOf_eq ▸ hp.matched.full⟩

structure Answers (w : LfgWorld) (s₀ s : LfgQueue) (check : List Nat) (r : Checked) : Prop where
  compatible : r.compatible = true ↔ Accepted w s₀ check
  proposal : Accepted w s₀ check → (r.proposal.isSome = true ↔
    Matched w s₀ check ∧ s.compatibles check = none ∧ ¬ LonePlayer check)
  agrees : Agrees w s₀ r.queue
  answers : AnswersFor check s r.queue

theorem checkCompatibility_spec (dice : Nat → Nat)
    (hq : ∀ guid ∈ check, w.isQueued s₀ guid = true) (h : Agrees w s₀ s) :
    Answers w s₀ s check (w.checkCompatibility dice check none s) := by
  induction check generalizing s with
  | nil => exact ⟨iff_of_false nofun not_false, nofun, h, fun _ => .inl rfl⟩
  | cons front check ih =>
    have hne : front :: check ≠ [] := List.cons_ne_nil _ _
    rw [checkCompatibility, if_neg (by simp)]
    by_cases hlong : (front :: check).length > MAXGROUPSIZE
    · rw [if_pos hlong]
      have hrefused : ¬ Accepted w s₀ (front :: check) := fun hacc => by
        rw [Accepted] at hacc
        omega
      exact ⟨iff_of_false nofun hrefused, fun hyes => absurd hyes hrefused, h, fun _ => .inl rfl⟩
    rw [if_neg hlong]
    have hshort : (front :: check).length ≤ MAXGROUPSIZE := not_lt.mp hlong
    by_cases hlone : check = [] ∧ isPlayerGuid front = true
    · have hplayer : LonePlayer (front :: check) := ⟨front, by rw [hlone.1], hlone.2⟩
      rw [if_pos hlone]
      exact ⟨iff_of_true rfl ⟨hshort, .inl hplayer⟩,
        fun _ => iff_of_false nofun fun hm => hm.2.2 hplayer, h, fun _ => .inl rfl⟩
    rw [if_neg hlone]
    have hplayer : ¬ LonePlayer (front :: check) := by
      rintro ⟨guid, heq, hguid⟩
      cases heq
      exact hlone ⟨rfl, hguid⟩
    cases hcached : s.compatibles (front :: check) with
    | some answer =>
      refine ⟨?_, fun _ => iff_of_false nofun fun hm => ?_, h, fun _ => .inl rfl⟩
      · rcases h.answers (front :: check) with heq | ⟨-, answer', heq, hright⟩
        · rw [hcached] at heq
          rw [Accepted, ← heq]
          simp only [hshort, hplayer, true_and, false_or, Option.some.injEq, reduceCtorEq,
            false_and, or_false]
        · rw [hcached] at heq
          rwa [Option.some.inj heq]
      · rw [hcached] at hm
        cases hm.2.1
    | none =>
      have hnone := h.none_of_none hcached
      have hq' := (List.forall_mem_cons.mp hq).2
      have hprev : Accepted w s₀ (front :: check) ↔
          ((front :: check).length > 2 → Accepted w s₀ check) ∧
            (Alone s₀ (front :: check) ∨ Together w s₀ (front :: check)) := by
        rw [Accepted, hnone]
        simp only [hshort, hplayer, true_and, false_or, reduceCtorEq]
      dsimp only
      by_cases htwo : (front :: check).length > 2
      · rw [if_pos htwo]
        have hr := ih hq' h
        generalize w.checkCompatibility dice check none s = r at hr
        have hwritten : AnswersFor (front :: check) s r.queue := fun key =>
          (hr.answers key).imp_right fun hsuffix => hsuffix.trans (List.suffix_cons _ _)
        cases hanswer : r.compatible with
        | false =>
          have hrefused : ¬ Accepted w s₀ (front :: check) := fun hyes => by
            have hrest := hr.compatible.mpr ((hprev.mp hyes).1 htwo)
            rw [hanswer] at hrest
            cases hrest
          refine ⟨iff_of_false nofun hrefused, fun hyes => absurd hyes hrefused,
            hr.agrees.setCompatibles hnone (iff_of_false Bool.false_ne_true hrefused) r.queue.used,
            fun key => ?_⟩
          have hset : AnswersFor (front :: check) r.queue
              (r.queue.setCompatibles (front :: check) false) :=
            answersFor_setCompatibles false r.queue.used
          rcases hset key with heq | hsuffix
          · exact (hwritten key).imp_left heq.trans
          · exact .inr hsuffix
        | true =>
          have hrest := hr.compatible.mp hanswer
          have hacc : Accepted w s₀ (front :: check) ↔
              Alone s₀ (front :: check) ∨ Together w s₀ (front :: check) :=
            hprev.trans (and_iff_right fun _ => hrest)
          -- There is no room for a party that is full and one more.
          have hprop : Accepted w s₀ (front :: check) → r.proposal = none := fun hyes => by
            rcases hacc.mp hyes with ⟨hone, -⟩ | htog
            · omega
            · by_contra hsome
              have hfull := ((hr.proposal hrest).mp (Option.isSome_iff_ne_none.mpr hsome)).1.full
              have hroom := htog.room
              have hpos := rolesOf_pos (htog.queued front List.mem_cons_self)
              rw [length_playersOf_cons] at hroom
              omega
          obtain ⟨hcompat, hfound, hagrees, hanswers⟩ :=
            checkAll_spec dice hne hq hr.agrees hnone hacc hprop
          rw [if_pos rfl]
          refine ⟨hcompat, fun hyes => (hfound hyes).trans ?_, hagrees, fun key => ?_⟩
          · exact ⟨fun hm => ⟨hm, hcached, hplayer⟩, fun hm => hm.1⟩
          · rcases hanswers key with heq | hsuffix
            · exact (hwritten key).imp_left heq.trans
            · exact .inr hsuffix
      · rw [if_neg htwo]
        have hacc : Accepted w s₀ (front :: check) ↔
            Alone s₀ (front :: check) ∨ Together w s₀ (front :: check) :=
          hprev.trans (and_iff_right fun hlen => absurd hlen htwo)
        obtain ⟨hcompat, hfound, hagrees, hanswers⟩ :=
          checkAll_spec dice hne hq h hnone hacc fun _ => rfl
        refine ⟨hcompat, fun hyes => (hfound hyes).trans ?_, hagrees, hanswers⟩
        exact ⟨fun hm => ⟨hm, hcached, hplayer⟩, fun hm => hm.1⟩

/-! ## The search -/

theorem firstCome_cons_of_accepted {guid : Nat} (h : Accepted w s (check ++ [guid])) :
    firstCome w s check (guid :: all) = firstCome w s (check ++ [guid]) all := by
  rw [firstCome, List.foldl_cons, if_pos h, firstCome]

theorem firstCome_cons_of_not {guid : Nat} (h : ¬ Accepted w s (check ++ [guid])) :
    firstCome w s check (guid :: all) = firstCome w s check all := by
  rw [firstCome, List.foldl_cons, if_neg h, firstCome]

def FirstComeHit (w : LfgWorld) (s : LfgQueue) (check all : List Nat) : Prop :=
  ∃ first, first <+: all ∧ Hit w s (firstCome w s check first)

theorem firstComeHit_nil : FirstComeHit w s check [] ↔ Hit w s check := by
  refine ⟨fun ⟨first, hfirst, hhit⟩ => ?_, fun hhit => ⟨[], List.prefix_refl _, hhit⟩⟩
  rw [List.prefix_nil.mp hfirst] at hhit
  exact hhit

theorem firstComeHit_cons {guid : Nat} (hnot : ¬ Hit w s check) : FirstComeHit w s check (guid :: all) ↔
    ∃ first, first <+: all ∧ Hit w s (firstCome w s check (guid :: first)) := by
  constructor
  · rintro ⟨first, hfirst, hhit⟩
    rcases List.prefix_cons_iff.mp hfirst with rfl | ⟨first, rfl, hrest⟩
    · exact absurd hhit hnot
    · exact ⟨first, hrest, hhit⟩
  · rintro ⟨first, hfirst, hhit⟩
    exact ⟨guid :: first, List.prefix_cons_iff.mpr (.inr ⟨first, rfl, hfirst⟩), hhit⟩

theorem firstComeHit_of_hit (h : Hit w s check) : FirstComeHit w s check all :=
  ⟨[], List.nil_prefix, h⟩

def Fresh (w : LfgWorld) (s₀ s : LfgQueue) (check : List Nat) : Prop :=
  ∀ key, check.length < key.length →
    s.compatibles key = s₀.compatibles key ∨ ¬ Accepted w s₀ key

/-- The loop of the search for a list that was checked finds what first come gives. -/
def LoopFinds (w : LfgWorld) (dice : Nat → Nat) (s₀ : LfgQueue) (fuel : Nat) (all : List Nat) : Prop :=
  ∀ (n : Nat) (check : List Nat) (s : LfgQueue), all.length < n →
    (∀ guid ∈ check, w.isQueued s₀ guid = true) → Agrees w s₀ s → Fresh w s₀ s check →
    ¬ Hit w s₀ check →
    ((matchLoop (w.findGroups dice fuel) check n all none s).proposal.isSome = true ↔
        FirstComeHit w s₀ check all) ∧
      ((matchLoop (w.findGroups dice fuel) check n all none s).proposal = none →
        (matchLoop (w.findGroups dice fuel) check n all none s).all = [])

theorem matchLoop_some {find : List Nat → List Nat → LfgQueue → Found} (n : Nat) :
    matchLoop find check n all (some p) s = ⟨some p, all, s⟩ := by
  cases n <;> rfl

/-- One call of the search: the list is refused and nothing is taken, or it is accepted and
nothing is left if nothing is found. -/
theorem findGroups_spec (hloop : LoopFinds w dice s₀ fuel all) (hne : check ≠ [])
    (hq : ∀ guid ∈ check, w.isQueued s₀ guid = true) (h : Agrees w s₀ s)
    (hfresh : s.compatibles check = s₀.compatibles check ∨ ¬ Accepted w s₀ check)
    (hlonger : Fresh w s₀ s check) :
    (¬ Accepted w s₀ check ∧ ∃ s₁, w.findGroups dice (fuel + 1) check all s = ⟨none, all, s₁⟩ ∧
      Agrees w s₀ s₁ ∧ AnswersFor check s s₁) ∨
    (Accepted w s₀ check ∧
      ((w.findGroups dice (fuel + 1) check all s).proposal.isSome = true ↔
        FirstComeHit w s₀ check all) ∧
      ((w.findGroups dice (fuel + 1) check all s).proposal = none →
        (w.findGroups dice (fuel + 1) check all s).all = [])) := by
  rw [findGroups]
  by_cases hsize : check = [] ∨ check.length > MAXGROUPSIZE
  · rw [if_pos hsize]
    refine .inl ⟨fun hyes => ?_, s, rfl, h, fun _ => .inl rfl⟩
    cases check with
    | nil => exact hne rfl
    | cons front check =>
      rw [Accepted] at hyes
      rcases hsize with heq | hlong
      · cases heq
      · omega
  rw [if_neg hsize]
  have hr := checkCompatibility_spec dice hq h
  generalize w.checkCompatibility dice check none s = r at hr
  dsimp only
  cases hanswer : r.compatible with
  | false =>
    have hrefused : ¬ Accepted w s₀ check := fun hyes => by
      rw [hr.compatible.mpr hyes] at hanswer
      cases hanswer
    exact .inl ⟨hrefused, r.queue, rfl, hr.agrees, hr.answers⟩
  | true =>
    have hyes := hr.compatible.mp hanswer
    have hsame := hfresh.resolve_right (not_not.mpr hyes)
    have hhit : r.proposal.isSome = true ↔ Hit w s₀ check := by
      rw [hr.proposal hyes, hsame, Hit]
    rw [if_pos rfl]
    refine .inr ⟨hyes, ?_⟩
    cases hp : r.proposal with
    | some p =>
      rw [matchLoop_some]
      exact ⟨iff_of_true rfl (firstComeHit_of_hit (hhit.mp (by rw [hp]; rfl))), nofun⟩
    | none =>
      refine hloop (all.length + 1) check r.queue (Nat.lt_succ_self _) hq hr.agrees
        (fun key hkey => ?_) fun hh => ?_
      · rcases hr.answers key with heq | hsuffix
        · exact (hlonger key hkey).imp_left heq.trans
        · exact absurd hsuffix.length_le (not_le.mpr hkey)
      · rw [← hhit, hp] at hh
        cases hh

theorem loopFinds (w : LfgWorld) (dice : Nat → Nat) (s₀ : LfgQueue) (all : List Nat)
    (hall : ∀ guid ∈ all, w.isQueued s₀ guid = true) (hfuel : all.length ≤ fuel) :
    LoopFinds w dice s₀ fuel all := by
  induction all generalizing fuel with
  | nil =>
    intro n check s hn _ _ _ hnot
    obtain ⟨n, rfl⟩ : ∃ m, n = m + 1 := ⟨n - 1, by omega⟩
    exact ⟨iff_of_false nofun fun hf => hnot (firstComeHit_nil.mp hf), fun _ => rfl⟩
  | cons guid all ih =>
    intro n check s hn hq h hfresh hnot
    have hguid := (List.forall_mem_cons.mp hall).1
    have hrest := (List.forall_mem_cons.mp hall).2
    rw [List.length_cons] at hn hfuel
    obtain ⟨n, rfl⟩ : ∃ m, n = m + 1 := ⟨n - 1, by omega⟩
    obtain ⟨fuel, rfl⟩ : ∃ m, fuel = m + 1 := ⟨fuel - 1, by omega⟩
    have hq' : ∀ g ∈ check ++ [guid], w.isQueued s₀ g = true := fun g hg =>
      (List.mem_append.mp hg).elim (hq g) fun hg => List.mem_singleton.mp hg ▸ hguid
    have hlen : (check ++ [guid]).length = check.length + 1 := by simp
    have hcall := findGroups_spec (s := s) (ih hrest (Nat.le_of_succ_le_succ hfuel))
      (List.append_ne_nil_of_right_ne_nil _ (List.cons_ne_nil _ _)) hq' h
      (hfresh _ (by omega)) fun key hkey => hfresh key (by omega)
    rw [firstComeHit_cons hnot]
    rw [matchLoop]
    rcases hcall with ⟨hrefused, s₁, heq, hagrees, hanswers⟩ | ⟨hyes, hfound, hleft⟩
    · rw [heq]
      have hfresh₁ : Fresh w s₀ s₁ check := by
        intro key hkey
        rcases hanswers key with hsame | hsuffix
        · exact (hfresh key hkey).imp_left hsame.trans
        · have hkeyEq : key = check ++ [guid] :=
            hsuffix.eq_of_length_le (by omega)
          exact .inr (hkeyEq ▸ hrefused)
      obtain ⟨hiff, hleft⟩ :=
        ih hrest (Nat.le_of_succ_le hfuel) n check s₁ (by omega) hq hagrees hfresh₁ hnot
      refine ⟨hiff.trans ?_, hleft⟩
      exact exists_congr fun first => by rw [firstCome_cons_of_not hrefused]
    · have hiff : FirstComeHit w s₀ (check ++ [guid]) all ↔
          ∃ first, first <+: all ∧ Hit w s₀ (firstCome w s₀ check (guid :: first)) :=
        exists_congr fun first => by rw [firstCome_cons_of_accepted hyes]
      rw [← hiff, ← hfound]
      generalize w.findGroups dice (fuel + 1) (check ++ [guid]) all s = r at hleft
      cases hp : r.proposal with
      | some p =>
        rw [matchLoop_some]
        exact ⟨Iff.rfl, nofun⟩
      | none =>
        rw [hleft hp]
        cases n with
        | zero => exact ⟨Iff.rfl, fun _ => rfl⟩
        | succ n => exact ⟨Iff.rfl, fun _ => rfl⟩

theorem accepted_iff_together (hnone : ∀ key, s.compatibles key = none) (htwo : 2 ≤ check.length)
    (hshort : check.length ≤ MAXGROUPSIZE) : Accepted w s check ↔ Together w s check := by
  induction check with
  | nil => exact absurd htwo (by simp)
  | cons front check ih =>
    have hplayer : ¬ LonePlayer (front :: check) := by
      rintro ⟨guid, heq, -⟩
      rw [heq, List.length_singleton] at htwo
      omega
    have halone : ¬ Alone s (front :: check) := fun h => by
      have hone := h.1
      omega
    have hrec : Together w s (front :: check) → (front :: check).length > 2 → Accepted w s check := by
      intro htog hlen
      rw [List.length_cons] at hlen hshort
      exact (ih (by omega) (by omega)).mpr (htog.sublist (List.sublist_cons_self _ _))
    rw [Accepted, hnone]
    simp only [hshort, hplayer, halone, reduceCtorEq, true_and, false_or]
    exact ⟨fun h => h.2, fun htog => ⟨hrec htog, htog⟩⟩

/-- With no answers remembered the check, which goes down to the last two guids first, accepts two to
five queued guids when they can play together, and of these it proposes full parties. -/
theorem checkCompatibility_iff_together (dice : Nat → Nat)
    (hq : ∀ guid ∈ check, w.isQueued s guid = true) (hnone : ∀ key, s.compatibles key = none)
    (htwo : 2 ≤ check.length) (hshort : check.length ≤ MAXGROUPSIZE) :
    ((w.checkCompatibility dice check none s).compatible = true ↔ Together w s check) ∧
      (Together w s check →
        ((w.checkCompatibility dice check none s).proposal.isSome = true ↔ Matched w s check)) := by
  obtain ⟨hcompatible, hproposal, -, -⟩ := checkCompatibility_spec dice hq (.refl w s)
  rw [accepted_iff_together hnone htwo hshort] at hcompatible hproposal
  refine ⟨hcompatible, fun htog => (hproposal htog).trans ⟨fun h => h.1, fun hm => ?_⟩⟩
  refine ⟨hm, hnone check, ?_⟩
  rintro ⟨guid, rfl, -⟩
  simp at htwo

/-- For a new guid and those of the queue: every proposal is made of queued ones that can play
together, as five players with a dungeon for all; and if there is such a party one is proposed,
exactly when there is none or taking the first that comes gives one that was not checked before. -/
theorem findNewGroups_complete (w : LfgWorld) (dice : Nat → Nat) (s : LfgQueue) (guid : Nat)
    (all : List Nat) :
    (∀ p, (w.findNewGroups dice [guid] all s).proposal = some p →
      ∃ found, found.Sublist all ∧ Proposes w s (guid :: found) p) ∧
    ((∀ g ∈ guid :: all, w.isQueued s g = true) →
      (((∃ found, found.Sublist all ∧ Matched w s (guid :: found)) →
          (w.findNewGroups dice [guid] all s).proposal.isSome = true) ↔
        ((∃ found, found.Sublist all ∧ Matched w s (guid :: found)) →
          Accepted w s [guid] ∧ FirstComeHit w s [guid] all))) := by
  refine ⟨(findGroups_sound w dice _ [guid] all s).2.2, fun hq => imp_congr_right fun _ => ?_⟩
  obtain ⟨hguid, hall⟩ := List.forall_mem_cons.mp hq
  rw [findNewGroups]
  rcases findGroups_spec (loopFinds w dice s all hall (Nat.le_refl _)) (List.cons_ne_nil guid [])
      (fun g hg => List.mem_singleton.mp hg ▸ hguid) (.refl w s) (.inl rfl) (fun _ _ => .inl rfl)
      with ⟨hrefused, s₁, heq, -, -⟩ | ⟨hyes, hfound, -⟩
  · rw [heq]
    exact iff_of_false nofun fun h => hrefused h.1
  · rw [hfound]
    exact (and_iff_right hyes).symm

section

def queuedAlone (guid : Nat) (role : BitVec 8) (dungeons : Finset Nat) : Nat × LfgQueueInfo :=
  (guid, ⟨dungeons, ⟨[(guid, role)], List.pairwise_singleton ..⟩, Nat.one_pos,
    Nat.succ_le_succ (Nat.zero_le 4)⟩)

def sixQueued : LfgQueue where
  queueInfo guid :=
    [queuedAlone 1 0x02 {1, 2}, queuedAlone 2 0x08 {1}, queuedAlone 3 0x04 {2},
      queuedAlone 4 0x08 {2}, queuedAlone 5 0x08 {2}, queuedAlone 6 0x08 {2}].lookup guid

def allOnline : LfgWorld where
  players _ := some {}
  locked _ := []
  state _ := .QUEUED
  isLFGGroup _ := false

theorem matched_sixQueued : Matched allOnline sixQueued [1, 3, 4, 5, 6] where
  queued := by decide
  oneGroup := by decide
  room := by decide
  once := by decide
  online _ _ := rfl
  peaceful := by decide
  roles := by
    refine ⟨fun p => if p = 1 then .tank else if p = 3 then .healer else .damage, ?_, ?_⟩
    all_goals decide +kernel
  dungeon := ⟨2, by decide, by decide⟩
  full := rfl

theorem checkCompatibility_sixQueued :
    (allOnline.checkCompatibility (fun _ => 0) [1, 3, 4, 5, 6] none sixQueued).compatible = true :=
  (checkCompatibility_iff_together (fun _ => 0) (by decide) (fun _ => rfl) (by decide)
    (by decide)).1.mpr matched_sixQueued.toTogether

theorem findNewGroups_sixQueued : FirstComeHit allOnline sixQueued [1] [3, 4, 5, 6] :=
  (((findNewGroups_complete allOnline (fun _ => 0) sixQueued 1 [3, 4, 5, 6]).2 (by decide)).mp
    (fun _ => by decide +kernel) ⟨[3, 4, 5, 6], .refl _, matched_sixQueued⟩).2

/-- The second player comes first, and with that one there is no party. -/
theorem findNewGroups_misses :
    ¬ ((∃ found, found.Sublist [2, 3, 4, 5, 6] ∧ Matched allOnline sixQueued (1 :: found)) →
      (allOnline.findNewGroups (fun _ => 0) [1] [2, 3, 4, 5, 6] sixQueued).proposal.isSome = true) := by
  intro h
  have hnone : (allOnline.findNewGroups (fun _ => 0) [1] [2, 3, 4, 5, 6] sixQueued).proposal.isSome =
      false := by decide +kernel
  have hsome := h ⟨[3, 4, 5, 6], List.sublist_cons_self _ _, matched_sixQueued⟩
  rw [hnone] at hsome
  cases hsome

end

end LfgWorld

end SkyfireBG
