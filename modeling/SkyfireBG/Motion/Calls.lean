import SkyfireBG.Motion.Master

/-!
# SkyfireBG.Motion.Calls

What the operations keep, as long as what the generators do in turn keeps it.
-/

namespace SkyfireBG

namespace MotionMaster

variable {α : Type} {i j slot : MovementSlot} {g m : MovementGenerator} {n : Nat}

def watch : Watch MotionFault MotionMaster where
  met s := s.met = true
  bad e := e ≠ .rounds

abbrev MotionSpec (P : MotionMaster → Prop) (p : Motion α)
    (Q : MotionMaster → α → MotionMaster → Prop) : Prop := Spec watch P p Q

theorem slotAt_spec {t : Int} (P : MotionMaster → Prop) :
    Triple watch (fun s => P s ∧ ∃ i : MovementSlot, (i.val : Int) = t) (slotAt t)
      fun a s => P s ∧ (a.val : Int) = t := by
  rw [slotAt]
  split
  next h => exact .pure fun s hs => ⟨hs.1, by show ((t.toNat : Nat) : Int) = t; omega⟩
  next h =>
    refine .throw fun s hs => ?_
    obtain ⟨-, i, hi⟩ := hs
    omega

theorem topSlot_spec : MotionSpec (fun s => ∃ i : MovementSlot, (i.val : Int) = s.top) topSlot
    fun s a s' => s' = s ∧ (a.val : Int) = s.top := by
  intro s₀
  refine .get_bind fun s₁ => ?_
  refine (slotAt_spec fun s => s = s₁ ∧ s = s₀).conseq ?_ ?_
  · rintro s ⟨rfl, rfl, hi⟩
    exact ⟨⟨rfl, rfl⟩, hi⟩
  · rintro a s ⟨⟨rfl, rfl⟩, ha⟩
    exact ⟨rfl, ha⟩

theorem topGenerator_spec : MotionSpec (fun s => ∃ i : MovementSlot, (i.val : Int) = s.top)
    topGenerator fun s a s' => s' = s ∧ ∃ i : MovementSlot, (i.val : Int) = s.top ∧ a = s.impl i := by
  intro s₀
  refine topSlot_spec.seq (fun s hs => hs.2) fun i => ?_
  refine .get_bind fun s₁ => .pure ?_
  rintro s ⟨rfl, s', ⟨rfl, -⟩, rfl, hi⟩
  exact ⟨rfl, i, hi, rfl⟩

/-- What `while (!top()) --_top` leaves. -/
def Lowered (s s' : MotionMaster) : Prop :=
  ∃ j : MovementSlot, s' = { s with top := j.val } ∧ s.impl j ≠ none ∧ (j.val : Int) ≤ s.top ∧
    ∀ i : MovementSlot, (j.val : Int) < i.val → (i.val : Int) ≤ s.top → s.impl i = none

theorem lowerTopLoop_spec (n : Nat) : MotionSpec
    (fun s => s.top ≤ 2 ∧ ∃ j : MovementSlot, s.impl j ≠ none ∧ (j.val : Int) ≤ s.top ∧
      s.top - j.val < n) (lowerTopLoop n) fun s _ s' => Lowered s s' := by
  induction n with
  | zero =>
    intro s₀
    refine .throw ?_
    rintro s ⟨-, -, j, -, hle, hlt⟩
    omega
  | succ n ih =>
    intro s₀
    refine topGenerator_spec.seq ?_ fun a => ?_
    · rintro s ⟨-, htop, j, -, hle, -⟩
      exact ⟨⟨s.top.toNat, by omega⟩, by show ((s.top.toNat : Nat) : Int) = s.top; omega⟩
    cases a with
    | some g =>
      refine .pure ?_
      rintro s ⟨s', ⟨rfl, htop, -⟩, rfl, i, hi, hg⟩
      refine ⟨i, by rw [hi], by rw [← hg]; exact Option.some_ne_none g, by omega, ?_⟩
      intro k hk hk'
      omega
    | none =>
      refine .bind (Q := fun _ s => s = decTop s₀ ∧ s₀.top ≤ 2 ∧
        (∀ i : MovementSlot, (i.val : Int) = s₀.top → s₀.impl i = none) ∧
        ∃ j : MovementSlot, s₀.impl j ≠ none ∧ (j.val : Int) ≤ s₀.top ∧ s₀.top - j.val < n + 1)
        (.modify (fun _ => id) ?_) fun _ => ih.use ?_ ?_
      · rintro s ⟨s', ⟨rfl, htop, hj⟩, rfl, i, hi, hg⟩ -
        refine ⟨rfl, htop, ?_, hj⟩
        intro k hk
        have hki : k = i := Fin.ext (by omega)
        rw [hki, ← hg]
      · rintro s ⟨rfl, htop, hnull, j, hj, hle, hlt⟩
        have hne : (j.val : Int) ≠ s₀.top := fun he => hj (hnull j he)
        exact ⟨by show s₀.top - 1 ≤ 2; omega, j, hj, by show (j.val : Int) ≤ s₀.top - 1; omega,
          by show s₀.top - 1 - j.val < n; omega⟩
      · rintro s - s' ⟨rfl, -, hnull, -⟩ ⟨j, rfl, hj, hle, hbetween⟩
        refine ⟨j, rfl, hj, by change (j.val : Int) ≤ s₀.top - 1 at hle; omega, ?_⟩
        intro i hji hi
        by_cases he : (i.val : Int) = s₀.top
        · exact hnull i he
        · exact hbetween i hji (by show (i.val : Int) ≤ s₀.top - 1; omega)

/-- `while (!top()) --_top` ends at a slot in use, if one is at or below the top. -/
theorem lowerTop_spec : MotionSpec
    (fun s => s.top ≤ 2 ∧ ∃ j : MovementSlot, s.impl j ≠ none ∧ (j.val : Int) ≤ s.top) lowerTop
    fun s _ s' => Lowered s s' := by
  intro s₀
  refine (lowerTopLoop_spec 4 s₀).pre ?_
  rintro s ⟨rfl, htop, j, hj, hle⟩
  exact ⟨rfl, htop, j, hj, hle, by omega⟩

theorem Lowered.of_topReal {s s' : MotionMaster} (h : Lowered s s') (ht : s.TopReal) : s' = s := by
  obtain ⟨j, rfl, hj, hle, hbetween⟩ := h
  obtain ⟨i, hi, hne⟩ := ht
  by_cases hji : (j.val : Int) < i.val
  · exact absurd (hbetween i hji (by omega)) hne
  · have : (j.val : Int) = s.top := by omega
    rw [this]

/-- `g` was taken from the top. -/
def Popped (s : MotionMaster) (g : MovementGenerator) (s' : MotionMaster) : Prop :=
  ∃ i j : MovementSlot, (i.val : Int) = s.top ∧ s.impl i = some g ∧
    s' = { clearSlot i s with top := j.val } ∧ s.impl j ≠ none ∧ j.val < i.val ∧
    ∀ k : MovementSlot, j.val < k.val → k.val < i.val → s.impl k = none

/-- `pop` takes the generator on top out and goes down to the next slot in use. -/
theorem pop_spec : MotionSpec (fun s => s.Shape ∧ s.CanPop) pop fun s _ s' =>
    ∀ i g, (i.val : Int) = s.top → s.impl i = some g → Popped s g s' := by
  intro s₀
  refine topSlot_spec.seq ?_ fun i => ?_
  · rintro s ⟨rfl, hshape, hcan⟩
    obtain ⟨i, hi, -⟩ := hcan.topReal hshape
    exact ⟨i, hi⟩
  refine .bind (Q := fun _ s => s = clearSlot i s₀ ∧ (i.val : Int) = s₀.top ∧ s₀.Shape ∧ s₀.CanPop)
    (.modify (fun _ => id) ?_) fun _ => lowerTop_spec.use ?_ ?_
  · rintro s ⟨s', ⟨rfl, hshape, hcan⟩, rfl, hi⟩ -
    exact ⟨rfl, hi, hshape, hcan⟩
  · rintro s ⟨rfl, hi, hshape, j, hj, hlt, -⟩
    have hne : j ≠ i := by
      rintro rfl
      omega
    refine ⟨hshape.top_le, j, ?_, Int.le_of_lt hlt⟩
    show Function.update s₀.impl i none j ≠ none
    rw [Function.update_of_ne hne]
    exact hj
  · rintro s - s' ⟨rfl, hi, -, -⟩ ⟨j, rfl, hj, hle, hbetween⟩ i' g hi' hg
    have hii : i' = i := Fin.ext (by omega)
    subst hii
    have hcleared : ∀ k, k ≠ i' → (clearSlot i' s₀).impl k = s₀.impl k :=
      fun k hk => Function.update_of_ne hk _ _
    have hji : j ≠ i' := by
      rintro rfl
      exact hj (Function.update_self ..)
    have hjival : j.val ≠ i'.val := Fin.val_ne_of_ne hji
    change (j.val : Int) ≤ s₀.top at hle
    have hlt : j.val < i'.val := by omega
    refine ⟨i', j, hi, hg, rfl, ?_, hlt, ?_⟩
    · rw [← hcleared j hji]
      exact hj
    · intro k hjk hki
      rw [← hcleared k fun he => by rw [he] at hki; exact Nat.lt_irrefl _ hki]
      exact hbetween k (by omega) (by show (k.val : Int) ≤ s₀.top; omega)

namespace Popped

variable {s s' : MotionMaster}

theorem topReal (h : Popped s g s') : s'.TopReal := by
  obtain ⟨i, j, hi, hg, rfl, hj, hlt, -⟩ := h
  refine ⟨j, rfl, ?_⟩
  show Function.update s.impl i none j ≠ none
  rw [Function.update_of_ne fun he => by rw [he] at hlt; exact Nat.lt_irrefl _ hlt]
  exact hj

theorem shape (h : Popped s g s') (hs : s.Shape) (hcan : s.CanPop) : s'.Shape := by
  have hreal := h.topReal
  obtain ⟨i, j, hi, hg, rfl, hj, hlt, hbetween⟩ := h
  have hbelow : ∀ k : MovementSlot, s.impl k ≠ none → k.val < i.val → k.val ≤ j.val := by
    intro k hk hki
    by_contra hjk
    exact hk (hbetween k (by omega) hki)
  have hkept : ∀ k v, Function.update s.impl i none k = some v → k ≠ i ∧ s.impl k = some v := by
    intro k v hk
    by_cases he : k = i
    · rw [he, Function.update_self] at hk
      cases hk
    · rw [Function.update_of_ne he] at hk
      exact ⟨he, hk⟩
  refine ⟨?_, ?_, fun _ => hreal.occupied, ?_, ?_, ?_⟩
  · show -1 ≤ (j.val : Int)
    omega
  · rintro k (hk | hk)
    · obtain ⟨v, hv⟩ := Option.ne_none_iff_exists'.mp hk
      obtain ⟨hki, hv⟩ := hkept k v hv
      have hne : s.impl k ≠ none := by simp [hv]
      have hle := hs.bound k (.inl hne)
      have hkival : k.val ≠ i.val := fun he => hki (Fin.ext he)
      have := hbelow k hne (by omega)
      show (k.val : Int) ≤ j.val
      omega
    · obtain ⟨l, hl, hltop, hrep⟩ := hcan
      have hkl : k.val < l.val := hrep k hk
      have := hbelow l hl (by omega)
      show (k.val : Int) ≤ j.val
      omega
  · intro k hk
    show Function.update s.impl i none k = none
    by_cases he : k = i
    · rw [he, Function.update_self]
    · rw [Function.update_of_ne he]
      exact hs.free k hk
  · intro k hk
    exact hs.static k (hkept k _ hk).2
  · intro k hk hneed
    obtain ⟨v, hv⟩ := Option.ne_none_iff_exists'.mp hk
    exact hs.ready k (by simp [(hkept k v hv).2]) hneed

theorem accounted (h : Popped s g s') (ha : s.Accounted []) : s'.Accounted [g] := by
  obtain ⟨i, j, hi, hg, rfl, -⟩ := h
  refine ⟨fun k => ?_, ha.finalized, ha.static⟩
  have hcount := slotCount_update s.impl i none (.made k)
  simp only [hg, Option.some.injEq, reduceCtorEq, if_false, Nat.add_zero] at hcount
  refine Eq.trans ?_ (ha.once k)
  simp only [clearSlot, List.count_cons, List.count_nil, beq_iff_eq]
  omega

theorem ne_idle (h : Popped s g s') (hs : s.Shape) : g ≠ .idle := by
  rintro rfl
  obtain ⟨i, j, hi, hg, -, -, hlt, -⟩ := h
  rw [hs.static i hg] at hlt
  exact Nat.not_lt_zero _ hlt

theorem frame (h : Popped s g s') : Frame s s' := by
  have hreal := h.topReal
  obtain ⟨i, j, hi, hg, rfl, hj, hlt, -⟩ := h
  refine ⟨rfl, rfl, rfl, fun _ => rfl, fun _ => hreal, fun hidle => ?_⟩
  show Function.update s.impl i none MOTION_SLOT_IDLE ≠ none
  rw [Function.update_of_ne]
  · exact hidle
  · rintro rfl
    exact Nat.not_lt_zero _ hlt

end Popped

/-! ## Generators -/

structure Kept (s s' : MotionMaster) : Prop where
  good : s'.Good
  frame : Frame s s'
  due : s.Due → s'.Due

theorem Kept.refl {s : MotionMaster} (h : s.Good) : Kept s s := ⟨h, .refl s, id⟩

theorem Kept.trans {s s' s'' : MotionMaster} (h : Kept s s') (h' : Kept s' s'') : Kept s s'' :=
  ⟨h'.good, h.frame.trans h'.frame, h'.due ∘ h.due⟩

abbrev Answered (call : Motion Unit) : Prop := MotionSpec Good call fun s _ s' => Kept s s'

theorem Accounted.beginFinalize {s : MotionMaster} {id : Nat} (h : s.Accounted [.made id]) :
    (beginFinalize (.made id) s).Accounted [] := by
  refine ⟨fun k => Eq.trans ?_ (h.once k), fun g => ?_, ?_⟩
  · simp only [MotionMaster.beginFinalize, List.count_cons, List.count_nil]
    omega
  · have := h.finalized g
    simp only [MotionMaster.beginFinalize, List.count_cons]
    omega
  · have := h.static
    simp only [MotionMaster.beginFinalize, List.mem_cons, reduceCtorEq, false_or]
    exact this

theorem Accounted.endFinalize {s : MotionMaster} {gs : List MovementGenerator}
    (h : s.Accounted []) (hdying : s.dying = g :: gs) : (endFinalize g s).Accounted [] := by
  refine ⟨fun k => Eq.trans ?_ (h.once k), fun g' => ?_, h.static⟩
  · simp only [MotionMaster.endFinalize, hdying, List.tail_cons, List.count_cons]
    omega
  · have := h.finalized g'
    simp only [MotionMaster.endFinalize, hdying, List.tail_cons, List.count_cons] at this ⊢
    omega

section

variable {call : Motion Unit}

/-- A generator that is finalized at once is accounted for again, whatever its `Finalize` calls. -/
theorem directDelete_spec (hcall : Answered call) : MotionSpec
    (fun s => s.Shape ∧ s.Accounted [g]) (directDelete call (some g)) fun s _ s' => Kept s s' := by
  intro s₀
  cases g with
  | idle =>
    refine .pure ?_
    rintro s ⟨rfl, hshape, hacc⟩
    exact .refl ⟨hshape, hacc.of_idle⟩
  | made id =>
    refine .bind (Q := fun _ s => s = beginFinalize (.made id) s₀ ∧ s.Good)
      (.modify (fun _ hm => hm) ?_) fun _ => hcall.seq (fun s hs => hs.2) fun _ =>
        .modify (fun _ hm => hm) ?_
    · rintro s ⟨rfl, hshape, hacc⟩ -
      exact ⟨rfl, hshape.congr rfl rfl rfl rfl rfl, hacc.beginFinalize⟩
    · rintro s' ⟨s, ⟨rfl, -⟩, hk⟩ -
      have hdying : s'.dying = .made id :: s₀.dying := hk.frame.dying
      refine ⟨⟨hk.good.shape.congr rfl rfl rfl rfl rfl, hk.good.accounted.endFinalize hdying⟩, ?_,
        fun hd => (hk.due (hd.congr rfl rfl rfl fun he => he)).congr rfl rfl rfl fun he => he⟩
      refine ⟨hk.frame.replacing, ?_, hk.frame.update, hk.frame.expList, hk.frame.real,
        hk.frame.idle⟩
      show s'.dying.tail = s₀.dying
      rw [hdying]
      rfl

/-- In an update the generator goes to the list of the expired ones. -/
theorem delayedDelete_spec : MotionSpec
    (fun s => s.Shape ∧ s.Accounted [g] ∧ s.update = true) (delayedDelete (some g))
    fun s _ s' => Kept s s' ∧ (g ≠ .idle → s'.Due) := by
  intro s₀
  cases g with
  | idle =>
    refine .pure ?_
    rintro s ⟨rfl, hshape, hacc, -⟩
    exact ⟨.refl ⟨hshape, hacc.of_idle⟩, fun hne => absurd rfl hne⟩
  | made id =>
    refine .modify (fun _ hm => hm) ?_
    rintro s ⟨rfl, hshape, hacc, hupdate⟩ -
    have hexp : (pushExpired (.made id) s).expList ≠ none := Option.some_ne_none _
    have hdue : (pushExpired (.made id) s).Due := .inr ⟨hupdate, hexp⟩
    refine ⟨⟨⟨hshape.congr rfl rfl rfl rfl rfl, fun k => Eq.trans ?_ (hacc.once k),
      hacc.finalized, hacc.static⟩, .of_eq rfl rfl rfl rfl rfl ?_, fun _ => hdue⟩, fun _ => hdue⟩
    · simp only [pushExpired, Option.getD_some, List.count_append, List.count_cons, List.count_nil]
      omega
    · intro hu
      rw [hupdate] at hu
      cases hu

theorem markInited_kept {s : MotionMaster} (h : s.Good) : Kept s (markInited i s) := by
  have hgrown : ∀ k, s.inited k = true → (markInited i s).inited k = true := by
    intro k hk
    show Function.update s.inited i _ k = true
    by_cases he : k = i
    · rw [he, Function.update_self, ← he, hk, Bool.or_true]
    · rw [Function.update_of_ne he, hk]
  have hs := h.shape
  refine ⟨⟨⟨hs.low, hs.bound, hs.atTop, hs.free, hs.static, ?_⟩,
    h.accounted.congr rfl rfl rfl rfl rfl rfl rfl⟩, .of_eq rfl rfl rfl rfl rfl fun _ => rfl, ?_⟩
  · exact fun k hk hneed => hgrown k (hs.ready k hk hneed)
  · rintro (hd | hd)
    · exact .inl fun k hk => hgrown k (hd k hk)
    · exact .inr hd

theorem markInited_due {s : MotionMaster} (hi : (i.val : Int) = s.top) : (markInited i s).Due := by
  refine .inl fun k hk => ?_
  have hki : k = i := Fin.ext (by change (k.val : Int) = s.top at hk; omega)
  show Function.update s.inited i _ k = true
  rw [hki, Function.update_self, hi, beq_self_eq_true, Bool.true_or]

/-- `Initialize` may call the motion master; the generator on top has been initialized then. -/
theorem initializeSlot_spec (hcall : Answered call) : MotionSpec Good (initializeSlot call i)
    fun s _ s' => Kept s s' ∧ ((i.val : Int) = s.top → s'.Due) := by
  intro s₀
  refine .bind (Q := fun _ s => s = markInited i s₀ ∧ Kept s₀ s) (.modify (fun _ hm => hm) ?_)
    fun _ => hcall.use (fun s hs => hs.2.good) ?_
  · rintro s ⟨rfl, hgood⟩ -
    exact ⟨rfl, markInited_kept hgood⟩
  · rintro s - s' ⟨rfl, hk⟩ hk'
    exact ⟨hk.trans hk', fun hi => hk'.due (markInited_due hi)⟩

theorem callTop_spec (hcall : Answered call) : MotionSpec (fun s => s.Good ∧ s.TopReal)
    (callTop call) fun s _ s' => Kept s s' := by
  intro s₀
  refine topGenerator_spec.seq ?_ fun a => ?_
  · rintro s ⟨rfl, -, i, hi, -⟩
    exact ⟨i, hi⟩
  cases a with
  | none =>
    refine .throw ?_
    rintro s ⟨s', ⟨rfl, -, j, hj, hne⟩, rfl, i, hi, hnone⟩
    have hij : i = j := Fin.ext (by omega)
    rw [← hij] at hne
    exact absurd hnone.symm hne
  | some g =>
    refine hcall.use ?_ ?_
    · rintro s ⟨s', ⟨rfl, hgood, -⟩, rfl, -⟩
      exact hgood
    · rintro s - s' ⟨s₁, ⟨rfl, -⟩, rfl, -⟩ hk
      exact hk

theorem Shape.due {s : MotionMaster} (h : s.Shape) (hreal : s.TopReal)
    (hi : (i.val : Int) = s.top) (hneed : s.needInit i = false) : s.Due := by
  obtain ⟨j, hj, hne⟩ := hreal
  have hij : i = j := Fin.ext (by omega)
  refine .inl fun k hk => ?_
  have hki : k = i := Fin.ext (by omega)
  rw [hki]
  exact h.ready i (hij ▸ hne) hneed

theorem setNeedInit_kept {s : MotionMaster} (h : s.Good) (hi : s.inited i = true) :
    Kept s (setNeedInit false i s) := by
  have hs := h.shape
  refine ⟨⟨⟨hs.low, hs.bound, hs.atTop, hs.free, hs.static, ?_⟩,
    h.accounted.congr rfl rfl rfl rfl rfl rfl rfl⟩, .of_eq rfl rfl rfl rfl rfl fun _ => rfl,
    fun hd => hd.congr rfl rfl rfl fun he => he⟩
  intro k hk hneed
  change Function.update s.needInit i false k = false at hneed
  by_cases he : k = i
  · rw [he]
    exact hi
  · rw [Function.update_of_ne he] at hneed
    exact hs.ready k hk hneed

theorem Due.inited {s : MotionMaster} (h : s.Due) (hupdate : s.update = false)
    (hi : (i.val : Int) = s.top) : s.inited i = true := by
  rcases h with h | ⟨hu, -⟩
  · exact h i hi
  · rw [hupdate] at hu
    cases hu

/-- After the loop of `DirectClean` that initializes the top, the top is due. -/
theorem initTop_spec (hcall : Answered call) : MotionSpec
    (fun s => s.Good ∧ s.TopReal ∧ s.update = false) (initTop call)
    fun s _ s' => Kept s s' ∧ s'.Due := by
  intro s₀
  refine topSlot_spec.seq ?_ fun i => ?_
  · rintro s ⟨rfl, -, ⟨i, hi, -⟩, -⟩
    exact ⟨i, hi⟩
  refine .get_bind fun s₁ => ?_
  cases himpl : s₁.impl i with
  | none =>
    refine .throw ?_
    rintro s ⟨rfl, s', ⟨rfl, -, ⟨j, hj, hne⟩, -⟩, rfl, hi⟩
    have hij : i = j := Fin.ext (by omega)
    rw [← hij] at hne
    exact absurd himpl hne
  | some g =>
    refine (initializeSlot_spec hcall).seq ?_ fun _ => topSlot_spec.seq ?_ fun j => .modify (fun _ hm => hm) ?_
    · rintro s ⟨rfl, s', ⟨rfl, hgood, -⟩, rfl, -⟩
      exact hgood
    · rintro s' ⟨s, ⟨rfl, s₂, ⟨rfl, -, hreal, -⟩, rfl, -⟩, hk, -⟩
      obtain ⟨j, hj, -⟩ := hk.frame.real hreal
      exact ⟨j, hj⟩
    · rintro _ ⟨s', ⟨s, ⟨rfl, s₂, ⟨rfl, -, -, hupdate⟩, rfl, hi⟩, hk, hdue⟩, rfl, hj⟩ -
      have hk' := setNeedInit_kept hk.good ((hdue hi).inited (hk.frame.update.trans hupdate) hj)
      exact ⟨hk.trans hk', hk'.due (hdue hi)⟩

theorem settleTop_spec (hcall : Answered call) {reset : Bool} : MotionSpec
    (fun s => s.Good ∧ s.TopReal ∧ s.update = false) (settleTop call reset)
    fun s _ s' => Kept s s' ∧ s'.Due := by
  intro s₀
  refine topSlot_spec.seq ?_ fun i => .get_bind fun s₁ => ?_
  · rintro s ⟨rfl, -, ⟨i, hi, -⟩, -⟩
    exact ⟨i, hi⟩
  by_cases hneed : s₁.needInit i = true
  · rw [if_pos hneed]
    refine (initTop_spec hcall).use ?_ ?_
    · rintro s ⟨rfl, s', ⟨rfl, h⟩, rfl, -⟩
      exact h
    · rintro s - s' ⟨rfl, s₂, ⟨rfl, -⟩, rfl, -⟩ hq
      exact hq
  rw [if_neg hneed]
  rw [Bool.not_eq_true] at hneed
  by_cases hreset : reset = true
  · rw [if_pos hreset]
    refine (callTop_spec hcall).use ?_ ?_
    · rintro s ⟨rfl, s', ⟨rfl, hgood, hreal, -⟩, rfl, -⟩
      exact ⟨hgood, hreal⟩
    · rintro s - s' ⟨rfl, s₂, ⟨rfl, hgood, hreal, -⟩, rfl, hi⟩ hk
      exact ⟨hk, hk.due (hgood.shape.due hreal hi hneed)⟩
  · rw [if_neg hreset]
    refine .pure ?_
    rintro s ⟨rfl, s', ⟨rfl, hgood, hreal, -⟩, rfl, hi⟩
    exact ⟨.refl hgood, hgood.shape.due hreal hi hneed⟩

/-! ## Mutate -/

def wait (m : MovementGenerator) (slot : MovementSlot) (s : MotionMaster) : MotionMaster :=
  { s with replacing := (slot, m) :: s.replacing }

/-- What the first part of `Mutate` has done. -/
structure Released (m : MovementGenerator) (slot : MovementSlot) (s s' : MotionMaster) : Prop where
  good : (wait m slot s').Good
  replacing : s'.replacing = s.replacing
  dying : s'.dying = s.dying
  update : s'.update = s.update
  expList : s.update = false → s'.expList = s.expList
  real : s.TopReal → s'.TopReal ∨ (slot.val : Int) = s'.top
  idle : s.impl MOTION_SLOT_IDLE ≠ none → s'.impl MOTION_SLOT_IDLE ≠ none ∨ slot = MOTION_SLOT_IDLE
  due : s.Due → s'.Due ∨ (slot.val : Int) = s'.top

theorem wait_occupied {s : MotionMaster} :
    (wait m slot s).Occupied i ↔ i = slot ∨ s.Occupied i := by
  simp only [Occupied, replaced, wait, List.map_cons, List.mem_cons]
  constructor
  · rintro (h | h | h)
    · exact .inr (.inl h)
    · exact .inl h
    · exact .inr (.inr h)
  · rintro (h | h | h)
    · exact .inr (.inl h)
    · exact .inl h
    · exact .inr (.inr h)

theorem Accounted.wait {s : MotionMaster} (h : s.Accounted [m]) : (wait m slot s).Accounted [] := by
  refine ⟨fun k => Eq.trans ?_ (h.once k), h.finalized, h.static⟩
  simp only [MotionMaster.wait, List.map_cons, List.count_cons, List.count_nil]
  omega

theorem Shape.wait {s : MotionMaster} (h : s.Shape) (hnone : s.impl slot = none)
    (hle : (slot.val : Int) ≤ s.top) : (wait m slot s).Shape where
  low := h.low
  bound := by
    intro i hi
    rcases wait_occupied.mp hi with rfl | hi
    · exact hle
    · exact h.bound i hi
  atTop := by
    intro ht
    obtain ⟨i, hi, ho⟩ := h.atTop ht
    exact ⟨i, hi, wait_occupied.mpr (.inr ho)⟩
  free := by
    intro i hi
    rcases List.mem_cons.mp hi with rfl | hi
    · exact hnone
    · exact h.free i hi
  static := h.static
  ready := h.ready

theorem Released.of_low {s : MotionMaster} (h : s.Shape) (ha : s.Accounted [m])
    (hnone : s.impl slot = none) (hlt : s.top < slot.val) : Released m slot s (raiseTop slot s) where
  good := by
    refine ⟨⟨?_, ?_, ?_, ?_, h.static, h.ready⟩,
      Accounted.wait (s := raiseTop slot s) (ha.congr rfl rfl rfl rfl rfl rfl rfl)⟩
    · show -1 ≤ (slot.val : Int)
      omega
    · intro i hi
      show (i.val : Int) ≤ slot.val
      rcases wait_occupied.mp hi with rfl | hi
      · exact Int.le_refl _
      · have := h.bound i hi
        omega
    · exact fun _ => ⟨slot, rfl, wait_occupied.mpr (.inl rfl)⟩
    · intro i hi
      rcases List.mem_cons.mp hi with rfl | hi
      · exact hnone
      · exact h.free i hi
  replacing := rfl
  dying := rfl
  update := rfl
  expList := fun _ => rfl
  real := fun _ => .inr rfl
  idle := .inl
  due := fun _ => .inr rfl

theorem Released.of_high {s : MotionMaster} (h : s.Shape) (ha : s.Accounted [m])
    (hnone : s.impl slot = none) (hle : (slot.val : Int) ≤ s.top) : Released m slot s s where
  good := ⟨h.wait hnone hle, ha.wait⟩
  replacing := rfl
  dying := rfl
  update := rfl
  expList := fun _ => rfl
  real := .inl
  idle := .inl
  due := .inl

theorem clearSlot_impl {s : MotionMaster} {v : MovementGenerator}
    (h : (clearSlot slot s).impl i = some v) : i ≠ slot ∧ s.impl i = some v := by
  change Function.update s.impl slot none i = some v at h
  by_cases he : i = slot
  · rw [he, Function.update_self] at h
    cases h
  · rw [Function.update_of_ne he] at h
    exact ⟨he, h⟩

theorem clearSlot_of_ne {s : MotionMaster} (h : i ≠ slot) : (clearSlot slot s).impl i = s.impl i :=
  Function.update_of_ne h _ _

theorem Shape.beginReplace {s : MotionMaster} (h : s.Shape) (hsome : s.impl slot = some g) :
    (beginReplace m slot s).Shape := by
  have hslot : s.impl slot ≠ none := by simp [hsome]
  refine ⟨h.low, ?_, ?_, ?_, ?_, ?_⟩
  · intro i hi
    rcases (wait_occupied (s := clearSlot slot s)).mp hi with rfl | hi | hi
    · exact h.bound i (.inl hslot)
    · obtain ⟨v, hv⟩ := Option.ne_none_iff_exists'.mp hi
      have hne : s.impl i ≠ none := by simp [(clearSlot_impl hv).2]
      exact h.bound i (.inl hne)
    · exact h.bound i (.inr hi)
  · intro ht
    obtain ⟨i, hi, ho⟩ := h.atTop ht
    refine ⟨i, hi, (wait_occupied (s := clearSlot slot s)).mpr ?_⟩
    by_cases he : i = slot
    · exact .inl he
    rcases ho with ho | ho
    · exact .inr (.inl (by rw [clearSlot_of_ne he]; exact ho))
    · exact .inr (.inr ho)
  · intro i hi
    show (clearSlot slot s).impl i = none
    by_cases he : i = slot
    · rw [he]
      exact Function.update_self ..
    · rw [clearSlot_of_ne he]
      rcases List.mem_cons.mp hi with rfl | hi
      · exact absurd rfl he
      · exact h.free i hi
  · exact fun i hi => h.static i (clearSlot_impl hi).2
  · intro i hi hneed
    obtain ⟨v, hv⟩ := Option.ne_none_iff_exists'.mp hi
    exact h.ready i (by simp [(clearSlot_impl hv).2]) hneed

theorem Accounted.beginReplace {s : MotionMaster} (h : s.Accounted [m])
    (hsome : s.impl slot = some g) : (beginReplace m slot s).Accounted [g] := by
  refine ⟨fun k => Eq.trans ?_ (h.once k), h.finalized, h.static⟩
  have hcount := slotCount_update s.impl slot none (.made k)
  simp only [hsome, Option.some.injEq, reduceCtorEq, if_false, Nat.add_zero] at hcount
  simp only [MotionMaster.beginReplace, clearSlot, List.map_cons, List.count_cons, List.count_nil,
    beq_iff_eq]
  omega

theorem Released.of_replaced {s s' : MotionMaster} (h : s.Shape) (hsome : s.impl slot = some g)
    (hk : Kept (beginReplace m slot s) s') : Released m slot s (endReplace s') := by
  have hrep : s'.replacing = (slot, m) :: s.replacing := hk.frame.replacing
  have htail : (endReplace s').replacing = s.replacing := by
    show s'.replacing.tail = s.replacing
    rw [hrep]
    rfl
  have hback : (wait m slot (endReplace s')).replacing = s'.replacing := by
    show (slot, m) :: (endReplace s').replacing = s'.replacing
    rw [htail, hrep]
  have hmem : ∀ i ∈ s'.replaced, i = slot ∨ i ∈ s.replaced := by
    intro i hi
    rw [replaced, hrep] at hi
    exact List.mem_cons.mp hi
  have hslot : s'.Occupied slot := .inr (by rw [replaced, hrep]; exact List.mem_cons_self)
  refine ⟨⟨hk.good.shape.congr rfl rfl rfl rfl hback,
    hk.good.accounted.congr rfl rfl hback rfl rfl rfl rfl⟩, htail, hk.frame.dying, hk.frame.update,
    hk.frame.expList, ?_, ?_, fun hd => .inl ((hk.due (hd.congr rfl rfl rfl fun he => he)).congr
      rfl rfl rfl fun he => he)⟩
  · intro hreal
    obtain ⟨i, hi, hne⟩ := hreal
    by_cases he : i = slot
    · -- while the top is being replaced it may only be raised
      subst he
      have hle := hk.good.shape.bound i hslot
      by_cases htop : (i.val : Int) = s'.top
      · exact .inr htop
      · refine .inl (hk.good.shape.topReal (by omega) fun k hin => ?_)
        rcases hmem k hin with rfl | hin
        · omega
        · have := h.bound k (.inr hin)
          omega
    · refine .inl (hk.frame.real ⟨i, hi, ?_⟩)
      show (clearSlot slot s).impl i ≠ none
      rw [clearSlot_of_ne he]
      exact hne
  · intro hidle
    by_cases he : MOTION_SLOT_IDLE = slot
    · exact .inr he.symm
    · refine .inl (hk.frame.idle ?_)
      show (clearSlot slot s).impl MOTION_SLOT_IDLE ≠ none
      rw [clearSlot_of_ne he]
      exact hidle

theorem deleteReplaced_spec (hcall : Answered call) : MotionSpec
    (fun s => s.Shape ∧ s.Accounted [g]) (deleteReplaced call slot g) fun s _ s' => Kept s s' := by
  intro s₀
  refine .get_bind fun s₁ => ?_
  by_cases hcond : s₁.top = slot.val ∧ s₁.update = true
  · rw [if_pos hcond]
    refine delayedDelete_spec.use ?_ ?_
    · rintro s ⟨rfl, rfl, hshape, hacc⟩
      exact ⟨hshape, hacc, hcond.2⟩
    · rintro s - s' ⟨rfl, rfl, -⟩ ⟨hk, -⟩
      exact hk
  · rw [if_neg hcond]
    refine (directDelete_spec hcall).use ?_ ?_
    · rintro s ⟨rfl, rfl, h⟩
      exact h
    · rintro s - s' ⟨rfl, rfl, -⟩ hk
      exact hk

/-- The first part of `Mutate` finalizes what was in the slot, and the new generator still waits. -/
theorem releaseSlot_spec (hcall : Answered call) : MotionSpec (fun s => s.Shape ∧ s.Accounted [m])
    (releaseSlot call m slot) fun s _ s' => Released m slot s s' := by
  intro s₀
  refine .get_bind fun s₁ => ?_
  cases himpl : s₁.impl slot with
  | some curr =>
    refine .bind (Q := fun _ s => s = beginReplace m slot s₁ ∧ s₁ = s₀ ∧ s₁.Shape ∧
      s₁.Accounted [m]) (.modify (fun _ hm => hm) ?_) fun _ =>
      (deleteReplaced_spec hcall).seq (A := fun s => s = beginReplace m slot s₁ ∧ s₁ = s₀ ∧
        s₁.Shape ∧ s₁.Accounted [m]) ?_ fun _ => .modify (fun _ hm => hm) ?_
    · rintro s ⟨rfl, rfl, h⟩ -
      exact ⟨rfl, rfl, h⟩
    · rintro s ⟨rfl, rfl, hshape, hacc⟩
      exact ⟨hshape.beginReplace himpl, hacc.beginReplace himpl⟩
    · rintro s' ⟨s, ⟨rfl, rfl, hshape, -⟩, hk⟩ -
      exact .of_replaced hshape himpl hk
  | none =>
    by_cases hlt : s₁.top < slot.val
    · simp only [if_pos hlt]
      refine .modify (fun _ hm => hm) ?_
      rintro s ⟨rfl, rfl, hshape, hacc⟩ -
      exact .of_low hshape hacc himpl hlt
    · simp only [if_neg hlt]
      refine .pure ?_
      rintro s ⟨rfl, rfl, hshape, hacc⟩
      exact .of_high hshape hacc himpl (by omega)

/-- `Mutate` puts the generator that waited into the slot that was emptied for it. -/
theorem Released.fill {s s' p : MotionMaster} (h : Released m slot s s')
    (hfree : slot ∉ s.replaced) (hm : m = .idle → slot = MOTION_SLOT_IDLE)
    (himpl : p.impl = Function.update s'.impl slot (some m)) (htop : p.top = s'.top)
    (hneed : ∀ i, i ≠ slot → p.needInit i = s'.needInit i)
    (hin : ∀ i, i ≠ slot → p.inited i = s'.inited i)
    (hready : p.needInit slot = false → p.inited slot = true)
    (hdue : (slot.val : Int) = s'.top → p.inited slot = true)
    (hrep : p.replacing = s'.replacing) (hdying : p.dying = s'.dying)
    (hupdate : p.update = s'.update) (hexp : p.expList = s'.expList)
    (hdel : p.deleted = s'.deleted) (hfin : p.finalized = s'.finalized) (hmade : p.made = s'.made) :
    Kept s p := by
  have hs := h.good.shape
  have hself : p.impl slot = some m := by rw [himpl, Function.update_self]
  have hother : ∀ i, i ≠ slot → p.impl i = s'.impl i := by
    intro i hi
    rw [himpl, Function.update_of_ne hi]
  have hreplaced' : s'.replaced = s.replaced := congrArg (List.map Prod.fst) h.replacing
  have hreplaced : p.replaced = s.replaced := (congrArg (List.map Prod.fst) hrep).trans hreplaced'
  have hnone : s'.impl slot = none := hs.free slot List.mem_cons_self
  have hocc : ∀ i, p.Occupied i ↔ i = slot ∨ s'.Occupied i := by
    intro i
    by_cases he : i = slot
    · simp [Occupied, he, hself]
    · rw [Occupied, hother i he, hreplaced, Occupied, hreplaced']
      simp [he]
  have hreal : s.TopReal → p.TopReal := by
    intro hr
    rcases h.real hr with ⟨i, hi, hne⟩ | heq
    · have he : i ≠ slot := by
        rintro rfl
        exact hne hnone
      exact ⟨i, by rw [htop, hi], by rw [hother i he]; exact hne⟩
    · exact ⟨slot, by rw [htop, heq], by simp [hself]⟩
  have hidle : s.impl MOTION_SLOT_IDLE ≠ none → p.impl MOTION_SLOT_IDLE ≠ none := by
    intro hi
    by_cases he : MOTION_SLOT_IDLE = slot
    · rw [he]
      simp [hself]
    · rw [hother _ he]
      exact (h.idle hi).resolve_right fun hc => he hc.symm
  refine ⟨⟨⟨?_, ?_, ?_, ?_, ?_, ?_⟩, fun k => ?_, ?_, ?_⟩, ⟨hrep.trans h.replacing,
    hdying.trans h.dying, hupdate.trans h.update, fun hu => hexp.trans (h.expList hu), hreal, hidle⟩,
    fun hd => ?_⟩
  · rw [htop]
    exact hs.low
  · intro i hi
    rw [htop]
    exact hs.bound i (wait_occupied.mpr ((hocc i).mp hi))
  · rw [htop]
    intro ht
    obtain ⟨i, hi, ho⟩ := hs.atTop ht
    exact ⟨i, hi, (hocc i).mpr (wait_occupied.mp ho)⟩
  · intro i hi
    rw [hreplaced] at hi
    have he : i ≠ slot := by
      rintro rfl
      exact hfree hi
    rw [hother i he]
    refine hs.free i (List.mem_cons_of_mem _ ?_)
    rw [h.replacing]
    exact hi
  · intro i hi
    by_cases he : i = slot
    · rw [he, hself] at hi
      rw [he]
      exact hm (Option.some.inj hi)
    · rw [hother i he] at hi
      exact hs.static i hi
  · intro i hne hi
    by_cases he : i = slot
    · rw [he] at hi ⊢
      exact hready hi
    · rw [hother i he] at hne
      rw [hneed i he] at hi
      rw [hin i he]
      exact hs.ready i hne hi
  · have hcount := slotCount_update s'.impl slot (some m) (.made k)
    have honce := h.good.accounted.once k
    rw [himpl, hexp, hrep, hdying, hdel, hmade]
    refine Eq.trans ?_ honce
    simp only [wait, hnone, List.map_cons, List.count_cons, reduceCtorEq, if_false,
      Nat.add_zero, Option.some.injEq, beq_iff_eq] at hcount ⊢
    omega
  · rw [hdying, hdel, hfin]
    exact h.good.accounted.finalized
  · rw [hfin]
    exact h.good.accounted.static
  · rcases h.due hd with (hd | hd) | heq
    · by_cases heq : (slot.val : Int) = s'.top
      · refine .inl fun i hi => ?_
        have he : i = slot := Fin.ext (by omega)
        rw [he]
        exact hdue heq
      · refine .inl fun i hi => ?_
        have he : i ≠ slot := by
          rintro rfl
          exact heq (hi.trans htop)
        rw [hin i he]
        exact hd i (hi.trans htop)
    · exact .inr ⟨hupdate.trans hd.1, by rw [hexp]; exact hd.2⟩
    · refine .inl fun i hi => ?_
      have he : i = slot := Fin.ext (by omega)
      rw [he]
      exact hdue heq

theorem Released.slot_le {s s' : MotionMaster} (h : Released m slot s s') :
    (slot.val : Int) ≤ s'.top :=
  h.good.shape.bound slot (wait_occupied.mpr (.inl rfl))

/-- `Mutate` of a slot that no `Mutate` is at work on, with a generator that is nowhere else. -/
theorem mutate_spec (hcall : Answered call) : MotionSpec
    (fun s => s.Shape ∧ s.Accounted [m] ∧ slot ∉ s.replaced ∧
      (m = .idle → slot = MOTION_SLOT_IDLE)) (mutate call m slot) fun s _ s' => Kept s s' := by
  intro s₀
  refine (releaseSlot_spec hcall).seq (fun s hs => ⟨hs.2.1, hs.2.2.1⟩) fun _ =>
    .get_bind fun s₁ => ?_
  refine .bind (Q := fun _ s => s = putSlot m slot s₁ ∧ Released m slot s₀ s₁ ∧
    slot ∉ s₀.replaced ∧ (m = .idle → slot = MOTION_SLOT_IDLE)) (.modify (fun _ hm => hm) ?_)
    fun _ => ?_
  · rintro s ⟨rfl, s', ⟨rfl, -, -, hfree, hm⟩, hr⟩ -
    exact ⟨rfl, hr, hfree, hm⟩
  by_cases hlt : s₁.top > slot.val
  · rw [if_pos hlt]
    refine .pure ?_
    rintro s ⟨rfl, hr, hfree, hm⟩
    refine hr.fill hfree hm rfl rfl (fun i hi => Function.update_of_ne hi _ _)
      (fun i hi => Function.update_of_ne hi _ _) (fun hn => ?_) (fun heq => by omega)
      rfl rfl rfl rfl rfl rfl rfl
    change Function.update s₁.needInit slot _ slot = false at hn
    rw [Function.update_self, decide_eq_false_iff_not] at hn
    exact absurd hlt hn
  · rw [if_neg hlt]
    refine .bind (Q := fun _ s => Kept s₀ s) (.modify (fun _ hm => hm) ?_) fun _ =>
      hcall.use (fun s hk => hk.good) fun s _ s' hk hk' => hk.trans hk'
    rintro s ⟨rfl, hr, hfree, hm⟩ -
    have htop : s₁.top = slot.val := by
      have := hr.slot_le
      omega
    have hmark : (markInited slot (putSlot m slot s₁)).inited slot = true := by
      show Function.update (Function.update s₁.inited slot false) slot
        (s₁.top == slot.val || _) slot = true
      rw [Function.update_self, htop, beq_self_eq_true, Bool.true_or]
    refine hr.fill hfree hm rfl rfl (fun i hi => Function.update_of_ne hi _ _) (fun i hi => ?_)
      (fun _ => hmark) (fun _ => hmark) rfl rfl rfl rfl rfl rfl rfl
    show Function.update (Function.update s₁.inited slot false) slot _ i = s₁.inited i
    rw [Function.update_of_ne hi, Function.update_of_ne hi]

end

/-! ## Clear and expire -/

/-- A step that takes the top generator and pops it knows the generator. -/
theorem takeTop {A : MotionMaster → Prop} {rest : Option MovementGenerator → Motion α}
    {R : α → MotionMaster → Prop} (hgood : ∀ s, A s → s.Good ∧ s.CanPop)
    (hrest : ∀ a, Triple watch (fun s' => ∃ s g, A s ∧ a = some g ∧ Popped s g s') (rest a) R) :
    Triple watch A (topGenerator >>= fun curr => pop >>= fun _ => rest curr) R := by
  refine topGenerator_spec.seq (fun s hs => ?_) fun a => pop_spec.seq ?_ fun _ => (hrest a).pre ?_
  · obtain ⟨hg, hcan⟩ := hgood s hs
    obtain ⟨i, hi, -⟩ := hcan.topReal hg.shape
    exact ⟨i, hi⟩
  · rintro s ⟨s', hs, rfl, -⟩
    exact ⟨(hgood s hs).1.shape, (hgood s hs).2⟩
  · rintro s' ⟨s, ⟨s₁, hs, rfl, i, hi, ha⟩, hpop⟩
    obtain ⟨hg, hcan⟩ := hgood s hs
    obtain ⟨j, hj, hne⟩ := hcan.topReal hg.shape
    obtain ⟨g, hgen⟩ := Option.ne_none_iff_exists'.mp hne
    have hij : i = j := Fin.ext (by omega)
    exact ⟨s, g, hs, by rw [ha, hij, hgen], hpop j g hj hgen⟩

section

variable {delete : Option MovementGenerator → Motion Unit} {u : Bool} {Z : MotionMaster → Prop}

/-- What is asked of the deletion after a pop: it brings about `Z`. -/
abbrev Deletes (delete : Option MovementGenerator → Motion Unit) (u : Bool)
    (Z : MotionMaster → Prop) : Prop :=
  ∀ g, MotionSpec (fun s => s.Shape ∧ s.Accounted [g] ∧ s.update = u ∧ g ≠ .idle) (delete (some g))
    fun s _ s' => s'.Good ∧ Frame s s' ∧ Z s'

/-- The loop that pops down to `keep` slots deletes every generator it takes. -/
theorem popAll_spec (hdelete : Deletes delete u Z) {keep : Int} (n : Nat) : MotionSpec
    (fun s => s.Good ∧ s.update = u ∧
      (s.size > keep → keep = 1 ∧ s.replaced = [] ∧ s.impl MOTION_SLOT_IDLE ≠ none))
    (popAll delete keep n)
    fun s _ s' => s'.Good ∧ Frame s s' ∧ s'.size ≤ keep ∧ (Z s → Z s') := by
  induction n with
  | zero =>
    intro s₀
    exact .throw fun s _ hbad => hbad rfl
  | succ n ih =>
    intro s₀
    refine .get_bind fun s₁ => ?_
    by_cases hsize : s₁.size > keep
    swap
    · rw [if_neg hsize]
      refine .pure ?_
      rintro s ⟨rfl, rfl, hgood, -⟩
      exact ⟨hgood, .refl s, by omega, id⟩
    rw [if_pos hsize]
    refine takeTop ?_ fun a => ?_
    · rintro s ⟨rfl, rfl, hgood, -, hkeep⟩
      obtain ⟨rfl, hrep, hidle⟩ := hkeep hsize
      refine ⟨hgood, MOTION_SLOT_IDLE, hidle, ?_, by simp [hrep]⟩
      rw [size] at hsize
      show 0 < s.top
      omega
    cases a with
    | none =>
      refine ih.use ?_ ?_
      · rintro s ⟨s', g, -, hc, -⟩
        cases hc
      · rintro s _ s' ⟨s₂, g, -, hc, -⟩
        cases hc
    | some g =>
      refine (hdelete g).seq ?_ fun _ => ih.use ?_ ?_
      · rintro s' ⟨s, g', ⟨rfl, rfl, hgood, hu, hkeep⟩, hg, hpop⟩
        cases hg
        obtain ⟨rfl, hrep, hidle⟩ := hkeep hsize
        have hcan : s.CanPop := by
          refine ⟨MOTION_SLOT_IDLE, hidle, ?_, by simp [hrep]⟩
          rw [size] at hsize
          show 0 < s.top
          omega
        exact ⟨hpop.shape hgood.shape hcan, hpop.accounted hgood.accounted,
          hpop.frame.update.trans hu, hpop.ne_idle hgood.shape⟩
      · rintro s'' ⟨s', ⟨s, g', ⟨rfl, rfl, hgood, hu, hkeep⟩, hg, hpop⟩, hgood', hframe, -⟩
        obtain ⟨hone, hrep, hidle⟩ := hkeep hsize
        have hf := hpop.frame.trans hframe
        exact ⟨hgood', hf.update.trans hu, fun _ => ⟨hone, hf.replaced.trans hrep, hf.idle hidle⟩⟩
      · rintro s'' - s₃ ⟨s', ⟨s, g', ⟨rfl, rfl, hgood, hu, hkeep⟩, hg, hpop⟩, hgood', hframe, hz⟩
          ⟨hgood₃, hframe₃, hsize₃, hz₃⟩
        exact ⟨hgood₃, (hpop.frame.trans hframe).trans hframe₃, hsize₃, fun _ => hz₃ hz⟩

def CanExpire (s : MotionMaster) : Prop := (s.top = 0 ∧ s.replaced = []) ∨ s.CanPop

theorem CanExpire.topReal {s : MotionMaster} (h : s.CanExpire) (hs : s.Shape) : s.TopReal := by
  rcases h with ⟨htop, hrep⟩ | hcan
  · exact hs.topReal (by omega) (by simp [hrep])
  · exact hcan.topReal hs

/-- `DirectExpire` and `DelayedExpire` pop one generator, unless only the lowest slot is left. -/
theorem popOne_spec (hdelete : Deletes delete u Z)
    (hnull : ∀ P Q, (∀ s, ¬P s) → Triple watch P (delete none) Q) : MotionSpec
    (fun s => s.Good ∧ s.update = u ∧ s.CanExpire) (popOne delete)
    fun s _ s' => s'.Good ∧ Frame s s' ∧ s'.TopReal ∧ (Z s → Z s') := by
  intro s₀
  refine .get_bind fun s₁ => ?_
  by_cases hsize : s₁.size > 1
  swap
  · rw [if_neg hsize]
    refine .pure ?_
    rintro s ⟨rfl, rfl, hgood, -, hcan⟩
    exact ⟨hgood, .refl s, hcan.topReal hgood.shape, id⟩
  rw [if_pos hsize]
  have hpops : ∀ s : MotionMaster, s = s₁ → s.CanExpire → s.CanPop := by
    rintro s rfl (⟨htop, -⟩ | hcan)
    · rw [size, htop] at hsize
      exact absurd hsize (by decide)
    · exact hcan
  refine takeTop ?_ fun a => ?_
  · rintro s ⟨hs, rfl, hgood, -, hcan⟩
    exact ⟨hgood, hpops s hs hcan⟩
  cases a with
  | none =>
    refine hnull _ _ ?_
    rintro s' ⟨s, g, -, hc, -⟩
    cases hc
  | some g =>
    refine (hdelete g).use ?_ ?_
    · rintro s' ⟨s, g', ⟨hs, rfl, hgood, hu, hcan⟩, hg, hpop⟩
      cases hg
      exact ⟨hpop.shape hgood.shape (hpops s hs hcan), hpop.accounted hgood.accounted,
        hpop.frame.update.trans hu, hpop.ne_idle hgood.shape⟩
    · rintro s' - s'' ⟨s, g', ⟨hs, rfl, hgood, hu, hcan⟩, hg, hpop⟩ ⟨hgood', hframe, hz⟩
      exact ⟨hgood', hpop.frame.trans hframe, hframe.real hpop.topReal, fun _ => hz⟩

theorem directDelete_deletes {call : Motion Unit} (hcall : Answered call) :
    Deletes (directDelete call) u fun _ => True := by
  intro g
  refine fun s₀ => (directDelete_spec hcall).use (fun s hs => ⟨hs.2.1, hs.2.2.1⟩) ?_
  rintro s _ s' ⟨rfl, -⟩ hk
  exact ⟨hk.good, hk.frame, trivial⟩

theorem delayedDelete_deletes : Deletes delayedDelete true Due := by
  intro g
  refine fun s₀ => delayedDelete_spec.use (fun s hs => ⟨hs.2.1, hs.2.2.1, hs.2.2.2.1⟩) ?_
  rintro s _ s' ⟨rfl, -, -, -, hne⟩ ⟨hk, hdue⟩
  exact ⟨hk.good, hk.frame, hdue hne⟩

end

section

variable {call : Motion Unit} {reset selects : Bool}

theorem setReset_kept {s : MotionMaster} (h : s.Good) : Kept s (setReset reset s) where
  good := ⟨h.shape.congr rfl rfl rfl rfl rfl, h.accounted.congr rfl rfl rfl rfl rfl rfl rfl⟩
  frame := .of_eq rfl rfl rfl rfl rfl fun _ => rfl
  due := fun hd => hd.congr rfl rfl rfl fun he => he

theorem topReal_of_size {s : MotionMaster} (h : s.Good) (hsize : s.size ≤ 1)
    (hidle : s.impl MOTION_SLOT_IDLE ≠ none) : s.TopReal := by
  have hle : (0 : Int) ≤ s.top := h.shape.nonneg (.inl hidle)
  rw [size] at hsize
  exact ⟨MOTION_SLOT_IDLE, by show (0 : Int) = s.top; omega, hidle⟩

/-- `Clear`, at once or in an update, leaves the idle slot alone. -/
theorem clear_spec (hcall : Answered call) : MotionSpec
    (fun s => s.Good ∧ s.replaced = [] ∧ s.impl MOTION_SLOT_IDLE ≠ none) (clear n call reset)
    fun s _ s' => Kept s s' := by
  intro s₀
  refine .get_bind fun s₁ => ?_
  by_cases hupdate : s₁.update = true
  · rw [if_pos hupdate]
    refine .bind (Q := fun _ s => s = setReset reset s₁ ∧ Kept s₀ s ∧ s₁ = s₀ ∧ s.replaced = [] ∧
      s.impl MOTION_SLOT_IDLE ≠ none) (.modify (fun _ hm => hm) ?_) fun _ =>
      (popAll_spec delayedDelete_deletes n).use ?_ ?_
    · rintro s ⟨rfl, rfl, hgood, h⟩ -
      exact ⟨rfl, setReset_kept hgood, rfl, h⟩
    · rintro s ⟨rfl, hk, -, h⟩
      exact ⟨hk.good, hupdate, fun _ => ⟨rfl, h⟩⟩
    · rintro s - s' ⟨rfl, hk, -⟩ ⟨hgood, hframe, -, hdue⟩
      exact hk.trans ⟨hgood, hframe, hdue⟩
  · rw [if_neg hupdate]
    rw [Bool.not_eq_true] at hupdate
    refine (popAll_spec (u := false) (directDelete_deletes hcall) n).seq ?_ fun _ =>
      (settleTop_spec hcall).use ?_ ?_
    · rintro s ⟨rfl, rfl, hgood, h⟩
      exact ⟨hgood, hupdate, fun _ => ⟨rfl, h⟩⟩
    · rintro s' ⟨s, ⟨rfl, rfl, -, -, hidle⟩, hgood, hframe, hsize, -⟩
      exact ⟨hgood, topReal_of_size hgood hsize (hframe.idle hidle), hframe.update.trans hupdate⟩
    · rintro s' - s'' ⟨s, ⟨rfl, rfl, -⟩, hgood, hframe, -⟩ ⟨hk, hdue⟩
      exact ⟨hk.good, hframe.trans hk.frame, fun _ => hdue⟩

theorem newGenerator_spec : MotionSpec Good newGenerator fun s a s' =>
    s'.Shape ∧ s'.Accounted [a] ∧ a ≠ .idle ∧ Frame s s' ∧ (s.Due → s'.Due) := by
  intro s₀
  refine .get_bind fun s₁ => ?_
  refine .bind (Q := fun _ s => s = takeNew s₁ ∧ s₁ = s₀ ∧ s₁.Good) (.modify (fun _ hm => hm) ?_)
    fun _ => .pure ?_
  · rintro s ⟨rfl, rfl, hgood⟩ -
    exact ⟨rfl, rfl, hgood⟩
  · rintro s ⟨rfl, rfl, hgood⟩
    refine ⟨hgood.shape.congr rfl rfl rfl rfl rfl, ⟨fun k => ?_, hgood.accounted.finalized,
      hgood.accounted.static⟩, by simp, .of_eq rfl rfl rfl rfl rfl fun _ => rfl,
      fun hd => hd.congr rfl rfl rfl fun he => he⟩
    have honce := hgood.accounted.once k
    show _ = if k < s₁.made + 1 then 1 else 0
    simp only [takeNew, List.count_cons, List.count_nil, beq_iff_eq,
      MovementGenerator.made.injEq] at honce ⊢
    by_cases hk : k = s₁.made
    · subst hk
      rw [if_neg (Nat.lt_irrefl _)] at honce
      rw [if_pos rfl, if_pos (Nat.lt_succ_self _)]
      omega
    · rw [if_neg (Ne.symm hk)]
      by_cases hlt : k < s₁.made
      · rw [if_pos hlt] at honce
        rw [if_pos (by omega)]
        omega
      · rw [if_neg hlt] at honce
        rw [if_neg (by omega)]
        omega

theorem mutateNew_spec (hcall : Answered call) : MotionSpec
    (fun s => s.Good ∧ slot ∉ s.replaced)
    (newGenerator >>= fun g => mutate call g slot) fun s _ s' => Kept s s' := by
  intro s₀
  refine newGenerator_spec.seq (fun s hs => hs.2.1) fun g => (mutate_spec hcall).use ?_ ?_
  · rintro s' ⟨s, ⟨rfl, -, hfree⟩, hshape, hacc, hne, hframe, -⟩
    exact ⟨hshape, hacc, by rw [hframe.replaced]; exact hfree, fun hc => absurd hc hne⟩
  · rintro s' - s'' ⟨s, ⟨rfl, -⟩, -, -, -, hframe, hdue⟩ hk
    exact ⟨hk.good, hframe.trans hk.frame, hk.due ∘ hdue⟩

theorem mutateIdle_spec (hcall : Answered call) : MotionSpec
    (fun s => s.Good ∧ MOTION_SLOT_IDLE ∉ s.replaced) (mutate call .idle MOTION_SLOT_IDLE)
    fun s _ s' => Kept s s' := by
  intro s₀
  refine (mutate_spec hcall).use ?_ ?_
  · rintro s ⟨rfl, hgood, hfree⟩
    exact ⟨hgood.shape, hgood.accounted.to_idle, hfree, fun _ => rfl⟩
  · rintro s - s' ⟨rfl, -⟩ hk
    exact hk

theorem initDefault_spec (hcall : Answered call) : MotionSpec
    (fun s => s.Good ∧ MOTION_SLOT_IDLE ∉ s.replaced) (initDefault call selects)
    fun s _ s' => Kept s s' := by
  cases selects with
  | true => exact mutateNew_spec hcall
  | false => exact mutateIdle_spec hcall

theorem Shape.replaced_of_empty {s : MotionMaster} (h : s.Shape) (he : s.top < 0) :
    i ∉ s.replaced := by
  intro hi
  have := h.bound i (.inr hi)
  omega

/-- `Initialize` of an empty motion master puts a generator into the idle slot. -/
theorem initializeStack_spec (hcall : Answered call) : MotionSpec
    (fun s => s.Good ∧ s.empty = true) (initializeStack n call selects)
    fun s _ s' => Kept s s' := by
  intro s₀
  refine (popAll_spec (u := s₀.update) (directDelete_deletes hcall) n).seq ?_ fun _ =>
    (initDefault_spec hcall).use ?_ ?_
  · rintro s ⟨rfl, hgood, hempty⟩
    refine ⟨hgood, rfl, fun hsize => ?_⟩
    simp only [empty, size, decide_eq_true_eq] at hempty hsize
    omega
  · rintro s' ⟨s, ⟨rfl, -⟩, hgood, -, hsize, -⟩
    rw [size] at hsize
    exact ⟨hgood, hgood.shape.replaced_of_empty (by omega)⟩
  · rintro s' - s'' ⟨s, ⟨rfl, -⟩, -, hframe, hsize, -⟩ hk
    rw [size] at hsize
    refine ⟨hk.good, hframe.trans hk.frame, fun _ => hk.due (.inl fun i hi => ?_)⟩
    omega

theorem settleStack_spec (hcall : Answered call) : MotionSpec
    (fun s => s.Good ∧ s.TopReal ∧ s.update = false) (settleStack n call reset selects)
    fun s _ s' => Kept s s' ∧ s'.Due := by
  intro s₀
  refine .get_bind fun s₁ => ?_
  by_cases hempty : s₁.empty = true
  · rw [if_pos hempty]
    refine (initializeStack_spec hcall).use ?_ ?_
    · rintro s ⟨rfl, rfl, hgood, -⟩
      exact ⟨hgood, hempty⟩
    · rintro s - s' ⟨rfl, rfl, -, hreal, -⟩ -
      rw [hreal.not_empty] at hempty
      cases hempty
  · rw [if_neg hempty]
    refine (settleTop_spec hcall).use ?_ ?_
    · rintro s ⟨rfl, rfl, h⟩
      exact h
    · rintro s - s' ⟨rfl, rfl, -⟩ hq
      exact hq

theorem lowerTop_kept : MotionSpec (fun s => s.Shape ∧ s.TopReal) lowerTop fun s _ s' => s' = s := by
  refine fun s₀ => lowerTop_spec.use ?_ ?_
  · rintro s ⟨rfl, hshape, i, hi, hne⟩
    exact ⟨hshape.top_le, i, hne, by omega⟩
  · rintro s - s' ⟨rfl, -, hreal⟩ hl
    exact hl.of_topReal hreal

/-- `DirectExpire` ends with a top that is initialized. -/
theorem directExpire_spec (hcall : Answered call) : MotionSpec
    (fun s => s.Good ∧ s.update = false ∧ s.CanExpire) (directExpire n call reset selects)
    fun s _ s' => Kept s s' ∧ s'.Due := by
  intro s₀
  refine (popOne_spec (directDelete_deletes hcall) ?_).seq (fun s hs => hs.2) fun _ =>
    lowerTop_kept.seq ?_ fun _ => (settleStack_spec hcall).use ?_ ?_
  · exact fun P Q hP => .throw fun s hs => absurd hs (hP s)
  · rintro s' ⟨s, -, hgood, -, hreal, -⟩
    exact ⟨hgood.shape, hreal⟩
  · rintro s₂ ⟨s', ⟨s, ⟨rfl, -, hupdate, -⟩, hgood, hframe, hreal, -⟩, rfl⟩
    exact ⟨hgood, hreal, hframe.update.trans hupdate⟩
  · rintro s₂ - s₃ ⟨s', ⟨s, ⟨rfl, -⟩, -, hframe, -⟩, rfl⟩ ⟨hk, hdue⟩
    exact ⟨⟨hk.good, hframe.trans hk.frame, fun _ => hdue⟩, hdue⟩

theorem delayedExpire_spec : MotionSpec (fun s => s.Good ∧ s.update = true ∧ s.CanExpire)
    delayedExpire fun s _ s' => Kept s s' := by
  intro s₀
  refine (popOne_spec delayedDelete_deletes ?_).seq (fun s hs => hs.2) fun _ =>
    lowerTop_kept.use ?_ ?_
  · exact fun P Q hP => .throw fun s hs => absurd hs (hP s)
  · rintro s' ⟨s, -, hgood, -, hreal, -⟩
    exact ⟨hgood.shape, hreal⟩
  · rintro s' - s'' ⟨s, ⟨rfl, -⟩, hgood, hframe, -, hdue⟩ rfl
    exact ⟨hgood, hframe, hdue⟩

/-- `MovementExpired`, at once or in an update. -/
theorem movementExpired_spec (hcall : Answered call) : MotionSpec (fun s => s.Good ∧ s.CanExpire)
    (movementExpired n call reset selects)
    fun s _ s' => Kept s s' ∧ (s.update = false → s'.Due) := by
  intro s₀
  refine .get_bind fun s₁ => ?_
  by_cases hupdate : s₁.update = true
  · rw [if_pos hupdate]
    refine .bind (Q := fun _ s => s = setReset reset s₁ ∧ Kept s₀ s ∧ s₁ = s₀ ∧ s.CanExpire)
      (.modify (fun _ hm => hm) ?_) fun _ => delayedExpire_spec.use ?_ ?_
    · rintro s ⟨rfl, rfl, hgood, h⟩ -
      exact ⟨rfl, setReset_kept hgood, rfl, h⟩
    · rintro s ⟨rfl, hk, -, h⟩
      exact ⟨hk.good, hupdate, h⟩
    · rintro s - s' ⟨rfl, hk, rfl, -⟩ hk'
      refine ⟨hk.trans hk', fun hc => ?_⟩
      rw [hupdate] at hc
      cases hc
  · rw [if_neg hupdate]
    rw [Bool.not_eq_true] at hupdate
    refine (directExpire_spec hcall).use ?_ ?_
    · rintro s ⟨rfl, rfl, hgood, h⟩
      exact ⟨hgood, hupdate, h⟩
    · rintro s - s' ⟨rfl, rfl, -⟩ ⟨hk, hdue⟩
      exact ⟨hk, fun _ => hdue⟩

theorem moveIdle_spec (hcall : Answered call) : MotionSpec
    (fun s => s.Good ∧ MOTION_SLOT_IDLE ∉ s.replaced) (moveIdle call) fun s _ s' => Kept s s' := by
  intro s₀
  refine .get_bind fun s₁ => ?_
  by_cases hempty : s₁.empty = true
  · rw [if_pos hempty]
    refine (mutateIdle_spec hcall).use (fun s hs => hs.2.2) ?_
    rintro s - s' ⟨rfl, rfl, -⟩ hk
    exact hk
  rw [if_neg hempty]
  refine topGenerator_spec.seq ?_ fun a => ?_
  · rintro s ⟨rfl, rfl, hgood, -⟩
    simp only [empty, decide_eq_true_eq] at hempty
    obtain ⟨i, hi, -⟩ := hgood.shape.atTop (by omega)
    exact ⟨i, hi⟩
  by_cases ha : a = some .idle
  · rw [if_pos ha]
    refine .pure ?_
    rintro s ⟨s', ⟨rfl, rfl, hgood, -⟩, rfl, -⟩
    exact .refl hgood
  · rw [if_neg ha]
    refine (mutateIdle_spec hcall).use ?_ ?_
    · rintro s ⟨s', ⟨rfl, rfl, h⟩, rfl, -⟩
      exact h
    · rintro s - s' ⟨s₂, ⟨rfl, rfl, -⟩, rfl, -⟩ hk
      exact hk

end

end MotionMaster

end SkyfireBG
