import SkyfireBG.Motion.Calls

/-!
# SkyfireBG.Motion.Kept

Runs of a motion master.  The loop `while (!top()) --_top` has no bound test, so operations that take
the last generator away leave the array.

* `perform_spec`       — one operation, with all that generators do in turn.
* `updateMotion_spec`  — an update, with what was deleted meanwhile.
* `motion_stack_kept`  — the stack after every run whose operations are started where they may be.
-/

namespace SkyfireBG

namespace MotionMaster

variable {n : Nat} {call : Motion Unit} {plan : Nat → List Op} {s : MotionMaster}

theorem canPop_of_any (h : ([(0 : MovementSlot), 1, 2].any fun j => (s.impl j).isSome &&
    decide ((j.val : Int) < s.top) && s.replaced.all (· < j)) = true) : s.CanPop := by
  simp only [List.any_eq_true, Bool.and_eq_true, decide_eq_true_eq, List.all_eq_true] at h
  obtain ⟨j, -, ⟨hsome, hlt⟩, hall⟩ := h
  exact ⟨j, Option.isSome_iff_ne_none.mp hsome, hlt, hall⟩

theorem canExpire_of_allowed {reset selects : Bool}
    (h : s.allowed (.movementExpired reset selects) = true) : s.CanExpire := by
  rw [allowed, Bool.or_eq_true, Bool.and_eq_true, beq_iff_eq, List.isEmpty_iff] at h
  exact h.imp id canPop_of_any

theorem run_spec (hcall : Answered call) (op : Op) : MotionSpec
    (fun s => s.Good ∧ s.allowed op = true) (op.run n call) fun s _ s' => Kept s s' := by
  cases op with
  | mutate slot =>
    refine fun s₀ => (mutateNew_spec hcall s₀).pre ?_
    rintro s ⟨rfl, hgood, hallowed⟩
    exact ⟨rfl, hgood, of_decide_eq_true hallowed⟩
  | moveIdle =>
    refine fun s₀ => (moveIdle_spec hcall s₀).pre ?_
    rintro s ⟨rfl, hgood, hallowed⟩
    exact ⟨rfl, hgood, of_decide_eq_true hallowed⟩
  | movementExpired reset selects =>
    refine fun s₀ => (movementExpired_spec hcall s₀).conseq ?_ fun _ _ hq => hq.1
    rintro s ⟨rfl, hgood, hallowed⟩
    exact ⟨rfl, hgood, canExpire_of_allowed hallowed⟩
  | clear reset =>
    refine fun s₀ => (clear_spec hcall s₀).pre ?_
    rintro s ⟨rfl, hgood, hallowed⟩
    rw [allowed, Bool.and_eq_true, List.isEmpty_iff, Option.isSome_iff_ne_none] at hallowed
    exact ⟨rfl, hgood, hallowed⟩
  | initializeStack selects =>
    exact initializeStack_spec hcall

theorem start_kept {op : Op} (h : s.Good) : Kept s (start op s) where
  good := ⟨h.shape.congr rfl rfl rfl rfl rfl, h.accounted.congr rfl rfl rfl rfl rfl rfl rfl⟩
  frame := .of_eq rfl rfl rfl rfl rfl fun _ => rfl
  due := fun hd => hd.congr rfl rfl rfl fun he => he

theorem start_met {op : Op} (h : (start op s).met = true) : s.met = true ∧ s.allowed op = true :=
  Bool.and_eq_true_iff.mp h

theorem start_spec (op : Op) : MotionSpec Good (modify (start op)) fun s _ s' =>
    Kept s s' ∧ s'.allowed op = true ∧ s' = start op s := by
  refine fun s₀ => .modify (fun s hm => (start_met hm).1) ?_
  rintro s ⟨rfl, hgood⟩ hmet
  exact ⟨start_kept hgood, (start_met hmet).2, rfl⟩

theorem answer_spec {perform : Op → Motion Unit}
    (h : ∀ op, MotionSpec Good (perform op) fun s _ s' => Kept s s') : Answered (answer plan perform) := by
  intro s₀
  refine .get_bind fun s₁ => ?_
  refine .bind (Q := fun _ s => Kept s₀ s) (.modify (fun _ hm => hm) ?_) fun _ => .forM fun op _ => ?_
  · rintro s ⟨rfl, rfl, hgood⟩ -
    exact ⟨⟨hgood.shape.congr rfl rfl rfl rfl rfl, hgood.accounted.congr rfl rfl rfl rfl rfl rfl rfl⟩,
      .of_eq rfl rfl rfl rfl rfl fun _ => rfl, fun hd => hd.congr rfl rfl rfl fun he => he⟩
  · exact (h op).use (fun s hk => hk.good) fun s _ s' hk hk' => hk.trans hk'

theorem perform_spec (n : Nat) (op : Op) :
    MotionSpec Good (perform plan n op) fun s _ s' => Kept s s' := by
  induction n generalizing op with
  | zero => exact fun s₀ => .throw fun s _ hbad => hbad rfl
  | succ n ih =>
    intro s₀
    refine (start_spec op).seq (fun s hs => hs.2) fun _ => (run_spec (answer_spec ih) op).use ?_ ?_
    · rintro s' ⟨s, -, hk, hallowed, -⟩
      exact ⟨hk.good, hallowed⟩
    · rintro s' - s'' ⟨s, ⟨rfl, -⟩, hk, -⟩ hk'
      exact hk.trans hk'

structure Rest (s : MotionMaster) : Prop where
  good : s.Good
  due : s.Due
  update : s.update = false
  expList : s.expList = none
  replacing : s.replacing = []
  dying : s.dying = []

theorem Rest.kept {s' : MotionMaster} (h : s.Rest) (hk : Kept s s') : s'.Rest where
  good := hk.good
  due := hk.due h.due
  update := hk.frame.update.trans h.update
  expList := (hk.frame.expList h.update).trans h.expList
  replacing := hk.frame.replacing.trans h.replacing
  dying := hk.frame.dying.trans h.dying

theorem setExpired_accounted {mg : MovementGenerator} {mgs : List MovementGenerator}
    (h : s.Accounted []) (hexp : s.expList = some (mg :: mgs)) :
    (setExpired (some mgs) s).Accounted [mg] := by
  refine ⟨fun k => Eq.trans ?_ (h.once k), h.finalized, h.static⟩
  simp only [setExpired, hexp, Option.getD_some, List.count_cons, List.count_nil]
  omega

theorem setExpired_frame {l : Option (List MovementGenerator)} {s' : MotionMaster}
    (h : Frame (setExpired l s) s') : s'.replacing = s.replacing ∧ s'.dying = s.dying ∧
      s'.update = s.update ∧ (s.update = false → s'.expList = l) ∧ (s.TopReal → s'.TopReal) :=
  ⟨h.replacing, h.dying, h.update, h.expList, h.real⟩

structure Expiring (mgs : List MovementGenerator) (s : MotionMaster) : Prop where
  good : s.Good
  real : s.TopReal
  update : s.update = false
  expList : s.expList = some mgs
  replacing : s.replacing = []
  dying : s.dying = []

theorem deleteAll_spec (hcall : Answered call) (mgs : List MovementGenerator) :
    Triple watch (Expiring mgs) (deleteAll call mgs) fun _ => Expiring [] := by
  induction mgs with
  | nil => exact .pure fun s hs => hs
  | cons mg mgs ih =>
    refine .bind (Q := fun _ s' => ∃ s, s' = setExpired (some mgs) s ∧ s.Expiring (mg :: mgs))
      (.modify (fun _ hm => hm) ?_) fun _ => (directDelete_spec hcall).seq ?_ fun _ => ih.pre ?_
    · exact fun s hs _ => ⟨s, rfl, hs⟩
    · rintro _ ⟨s, rfl, hs⟩
      exact ⟨hs.good.shape.congr rfl rfl rfl rfl rfl,
        setExpired_accounted hs.good.accounted hs.expList⟩
    · rintro s' ⟨_, ⟨s, rfl, hs⟩, hk⟩
      obtain ⟨hrep, hdying, hupdate, hexp, hreal⟩ := setExpired_frame hk.frame
      exact ⟨hk.good, hreal hs.real, hupdate.trans hs.update, hexp hs.update,
        hrep.trans hs.replacing, hdying.trans hs.dying⟩

theorem deleteExpired_spec (hcall : Answered call) {selects : Bool} : Triple watch
    (fun s => (∃ mgs, s.Expiring mgs) ∨ s.Rest) (deleteExpired n call selects) fun _ => Rest := by
  refine .get_bind fun s₁ => ?_
  cases hexp : s₁.expList with
  | none =>
    refine .pure ?_
    rintro s ⟨rfl, ⟨mgs, hs⟩ | hs⟩
    · rw [hs.expList] at hexp
      cases hexp
    · exact hs
  | some mgs =>
    refine .bind ((deleteAll_spec hcall mgs).pre ?_) fun _ => .bind (Q := fun _ s =>
      s.Good ∧ s.TopReal ∧ s.update = false ∧ s.expList = none ∧ s.replacing = [] ∧ s.dying = [])
      (.modify (fun _ hm => hm) ?_) fun _ => .get_bind fun s₂ =>
      (settleStack_spec hcall).seq ?_ fun _ => .modify (fun _ hm => hm) ?_
    · rintro s ⟨rfl, ⟨mgs', hs⟩ | hs⟩
      · rw [hs.expList] at hexp
        cases hexp
        exact hs
      · rw [hs.expList] at hexp
        cases hexp
    · intro s hs _
      refine ⟨⟨hs.good.shape.congr rfl rfl rfl rfl rfl, fun k => Eq.trans ?_ (hs.good.accounted.once k),
        hs.good.accounted.finalized, hs.good.accounted.static⟩, hs.real, hs.update, rfl, hs.replacing,
        hs.dying⟩
      rw [hs.expList]
      rfl
    · rintro s ⟨rfl, hgood, hreal, hupdate, -⟩
      exact ⟨hgood, hreal, hupdate⟩
    · rintro s' ⟨s, ⟨rfl, -, -, hupdate, hnone, hrep, hdying⟩, hk, hdue⟩ -
      have hk' : Kept s' (setReset false s') := setReset_kept hk.good
      exact ⟨hk'.good, hk'.due hdue, hk.frame.update.trans hupdate,
        (hk.frame.expList hupdate).trans hnone, hk.frame.replacing.trans hrep,
        hk.frame.dying.trans hdying⟩

theorem Rest.topReal (h : s.Rest) (ht : 0 ≤ s.top) : s.TopReal :=
  h.good.shape.topReal ht (by simp [replaced, h.replacing])

structure Updating (s : MotionMaster) : Prop where
  good : s.Good
  real : s.TopReal
  due : s.Due
  replacing : s.replacing = []
  dying : s.dying = []

theorem Updating.done (h : s.Updating) (hdue : s.expList = none → (setUpdate false s).Due) :
    (∃ mgs, (setUpdate false s).Expiring mgs) ∨ (setUpdate false s).Rest := by
  have hgood : (setUpdate false s).Good :=
    ⟨h.good.shape.congr rfl rfl rfl rfl rfl, h.good.accounted.congr rfl rfl rfl rfl rfl rfl rfl⟩
  cases hexp : s.expList with
  | none => exact .inr ⟨hgood, hdue hexp, rfl, hexp, h.replacing, h.dying⟩
  | some mgs => exact .inl ⟨mgs, hgood, h.real, rfl, hexp, h.replacing, h.dying⟩

theorem Updating.due_of_none (h : s.Updating) (hexp : s.expList = none) : (setUpdate false s).Due := by
  rcases h.due with hd | ⟨-, hne⟩
  · exact .inl hd
  · exact absurd hexp hne

theorem expireUnless_spec (hcall : Answered call) {goesOn selects : Bool} : Triple watch
    (fun s => (∃ mgs, s.Expiring mgs) ∨ s.Rest) (expireUnless n call goesOn selects)
    fun _ s => (∃ mgs, s.Expiring mgs) ∨ s.Rest := by
  have hgood : ∀ s : MotionMaster, ((∃ mgs, s.Expiring mgs) ∨ s.Rest) → s.Good := by
    rintro s (⟨mgs, hs⟩ | hs)
    · exact hs.good
    · exact hs.good
  have hkept : ∀ s s' : MotionMaster, ((∃ mgs, s.Expiring mgs) ∨ s.Rest) → Kept s s' →
      (∃ mgs, s'.Expiring mgs) ∨ s'.Rest := by
    rintro s s' (⟨mgs, hs⟩ | hs) hk
    · exact .inl ⟨mgs, hk.good, hk.frame.real hs.real, hk.frame.update.trans hs.update,
        (hk.frame.expList hs.update).trans hs.expList, hk.frame.replacing.trans hs.replacing,
        hk.frame.dying.trans hs.dying⟩
    · exact .inr (hs.kept hk)
  cases goesOn with
  | true => exact .pure fun s hs => hs
  | false =>
    refine (start_spec _).seq hgood fun _ => (movementExpired_spec hcall).use ?_ ?_
    · rintro s' ⟨s, -, hk, hallowed, -⟩
      exact ⟨hk.good, canExpire_of_allowed hallowed⟩
    · rintro s' - s'' ⟨s, hs, hk, -⟩ ⟨hk', -⟩
      exact hkept s s'' hs (hk.trans hk')

theorem updateMotion_spec (hcall : Answered call) {held goesOn selects : Bool} : Triple watch
    (fun s => s.Rest ∧ s.allowedUpdate held = true) (updateMotion n call held goesOn selects)
    fun _ => Rest := by
  refine .get_bind fun s₁ => ?_
  cases held with
  | true => exact .pure fun s hs => hs.2.1
  | false =>
    simp only [Bool.false_eq_true, if_false]
    by_cases hempty : s₁.empty = true
    · rw [if_pos hempty]
      refine .throw ?_
      rintro s ⟨rfl, -, hallowed⟩
      rw [allowedUpdate, hempty] at hallowed
      cases hallowed
    rw [if_neg hempty]
    refine .bind (Q := fun _ => Updating) (.modify (fun _ hm => hm) ?_) fun _ =>
      (callTop_spec hcall).seq ?_ fun _ => .bind (Q := fun _ s => (∃ mgs, s.Expiring mgs) ∨ s.Rest)
      (.modify (fun _ hm => hm) ?_) fun _ => .bind (expireUnless_spec hcall) fun _ =>
      deleteExpired_spec hcall
    · rintro s ⟨rfl, hs, -⟩ -
      simp only [empty, decide_eq_true_eq] at hempty
      refine ⟨⟨hs.good.shape.congr rfl rfl rfl rfl rfl,
        hs.good.accounted.congr rfl rfl rfl rfl rfl rfl rfl⟩, hs.topReal (by omega), ?_,
        hs.replacing, hs.dying⟩
      exact .inl fun i hi => hs.due.inited hs.update hi
    · exact fun s hs => ⟨hs.good, hs.real⟩
    · rintro s' ⟨s, hs, hk⟩ -
      have hs' : s'.Updating := ⟨hk.good, hk.frame.real hs.real, hk.due hs.due,
        hk.frame.replacing.trans hs.replacing, hk.frame.dying.trans hs.dying⟩
      exact hs'.done hs'.due_of_none

theorem new_rest : new.Rest where
  good := by
    refine ⟨⟨by decide, ?_, fun h => absurd h (by decide), ?_, ?_, ?_⟩, fun k => ?_, fun g => rfl, ?_⟩
    · rintro i (hi | hi)
      · exact absurd rfl hi
      · cases hi
    · intro i hi
      cases hi
    · intro i hi
      cases hi
    · exact fun i hi => absurd rfl hi
    · rfl
    · exact List.not_mem_nil
  due := .inl fun i hi => by change (i.val : Int) = -1 at hi; omega
  update := rfl
  expList := rfl
  replacing := rfl
  dying := rfl

theorem startUpdate_met {held : Bool} (h : (startUpdate held s).met = true) :
    s.met = true ∧ s.allowedUpdate held = true :=
  Bool.and_eq_true_iff.mp h

theorem command_spec (cmd : Command) :
    Triple watch Rest (cmd.run plan n) fun _ => Rest := by
  cases cmd with
  | op o => exact (perform_spec n o).use (fun s hs => hs.good) fun s _ s' hs hk => hs.kept hk
  | updateMotion held goesOn selects =>
    refine .bind (Q := fun _ s => s.Rest ∧ s.allowedUpdate held = true)
      (.modify (fun s hm => (startUpdate_met hm).1) ?_) fun _ =>
      updateMotion_spec (answer_spec fun op => perform_spec n op)
    intro s hs hm
    refine ⟨?_, (startUpdate_met hm).2⟩
    exact ⟨⟨hs.good.shape.congr rfl rfl rfl rfl rfl,
      hs.good.accounted.congr rfl rfl rfl rfl rfl rfl rfl⟩, hs.due.congr rfl rfl rfl fun he => he,
      hs.update, hs.expList, hs.replacing, hs.dying⟩

theorem runAll_spec (plan : Nat → List Op) (n : Nat) (cmds : List Command) :
    Triple watch Rest (runAll plan n cmds) fun _ => Rest :=
  .forM fun cmd _ => command_spec cmd

structure Sound (s : MotionMaster) : Prop where
  /-- the top is the highest slot that is not null, or -1 -/
  top : (s.top = -1 ∧ ∀ i, s.impl i = none) ∨ ∃ i : MovementSlot, (i.val : Int) = s.top ∧
    s.impl i ≠ none ∧ ∀ j, i < j → s.impl j = none
  inited : ∀ i : MovementSlot, (i.val : Int) = s.top → s.inited i = true
  /-- a generator is in its slot, or it was finalized and deleted once -/
  once : ∀ k, k < s.made →
    (slotCount s.impl (.made k) = 1 ∧ s.finalized.count (.made k) = 0 ∧
      s.deleted.count (.made k) = 0) ∨
    (slotCount s.impl (.made k) = 0 ∧ s.finalized.count (.made k) = 1 ∧
      s.deleted.count (.made k) = 1)
  static : .idle ∉ s.finalized ∧ .idle ∉ s.deleted

theorem Rest.sound (h : s.Rest) : s.Sound where
  top := by
    by_cases ht : 0 ≤ s.top
    · obtain ⟨i, hi, hne⟩ := h.topReal ht
      refine .inr ⟨i, hi, hne, fun j hij => ?_⟩
      by_contra hj
      have hle := h.good.shape.bound j (.inl hj)
      have hlt : i.val < j.val := hij
      omega
    · refine .inl ⟨by have := h.good.shape.low; omega, fun i => ?_⟩
      by_contra hi
      have := h.good.shape.bound i (.inl hi)
      omega
  inited := fun i hi => h.due.inited h.update hi
  once := by
    intro k hk
    have honce := h.good.accounted.once k
    have hfin := h.good.accounted.finalized (.made k)
    rw [if_pos hk, h.expList, h.replacing, h.dying] at honce
    rw [h.dying] at hfin
    simp only [Option.getD_none, List.map_nil, List.count_nil] at honce hfin
    omega
  static := by
    have hnot := h.good.accounted.static
    refine ⟨hnot, fun hin => ?_⟩
    have hfin := h.good.accounted.finalized .idle
    rw [List.count_eq_zero.mpr hnot] at hfin
    have hpos := List.count_pos_iff.mpr hin
    omega

/-- Every run whose operations are started where they may be stays in the array, follows no null
pointer and leaves a sound stack. -/
theorem motion_stack_kept (plan : Nat → List Op) (n : Nat) (cmds : List Command) :
    match runAll plan n cmds new with
    | .ok _ s => s.met = true → s.Sound
    | .error e s => s.met = true → e = .rounds := by
  have h := runAll_spec plan n cmds new fun _ => new_rest
  cases hr : runAll plan n cmds new with
  | ok a s =>
    rw [hr] at h
    exact fun hm => (h hm).2.sound
  | error e s =>
    rw [hr] at h
    exact fun hm => not_not.mp (h hm).2

/-- The generator in slot 1 puts another one into slot 2 while it is finalized. -/
theorem motion_stack_kept_finalize : ∃ s, runAll (fun k => if k = 3 then [.mutate 2] else []) 2
    [.op (.initializeStack true), .op (.mutate 1), .updateMotion false false false] new =
      .ok ⟨⟩ s ∧ s.Sound := by
  have h := motion_stack_kept (fun k => if k = 3 then [.mutate 2] else []) 2
    [.op (.initializeStack true), .op (.mutate 1), .updateMotion false false false]
  exact ⟨_, rfl, h rfl⟩

/-- `Initialize` on a stack that is not empty, a movement that expires above empty slots, and a
generator that fills the slot its successor waits for. -/
theorem motion_stack_lost :
    (∃ s, runAll (fun _ => []) 1 [.op (.initializeStack true), .op (.initializeStack true)] new =
      .error .outside s) ∧
    (∃ s, runAll (fun _ => []) 1 [.op (.mutate 1), .op (.movementExpired true true)] new =
      .error .outside s) ∧
    ∃ s, runAll (fun k => if k = 2 then [.mutate 1] else []) 2
        [.op (.initializeStack true), .op (.mutate 1), .op (.mutate 1)] new = .ok ⟨⟩ s ∧
      ¬s.Sound := by
  refine ⟨⟨_, rfl⟩, ⟨_, rfl⟩, _, rfl, fun hs => ?_⟩
  exact absurd (hs.once 3 (by decide)) (by decide)

end MotionMaster

end SkyfireBG
