import Mathlib.Algebra.Order.Field.Rat
import Mathlib.Logic.Relation
import Mathlib.Order.Lattice.Nat

/-!
# SkyfireBG.Instance.MapUpdater

The ticks of the map manager over the threads of its updater.  The maps are passed to the updater;
a thread that updates a map passes on the instances of it; and in `wait` the manager sleeps on
the condition variable, which `update_finished` broadcasts.  What is done under `m_mutex` is one step.

* `Kept.awaken`       — however the threads go on, they wake a sleeping manager.
* `reachable_barrier` — when `DelayedUpdate` begins no thread updates a map, and each request of the
  tick was carried out once; and no wake-up is lost.
-/

namespace SkyfireBG

/-- What a thread does for the request that it took. -/
inductive MapJob (M : Type) where
  /-- It is in `Map::Update`, with the instances `todo` still to pass on. -/
  | updating (map : M) (todo : List M)
  | updated

def MapJob.updates {M : Type} [DecidableEq M] (map : M) : MapJob M → Bool
  | .updating map' _ => decide (map' = map)
  | .updated => false

/-- The steps that are left before `update_finished`. -/
def MapJob.weight {M : Type} : MapJob M → Nat
  | .updating _ todo => todo.length + 1
  | .updated => 0

/-- Where the manager is in `MapManager::Update`. -/
inductive ManagerPhase (M : Type) where
  | scheduling (todo : List M)
  /-- Before the test of the loop in `MapUpdater::wait`. -/
  | checking
  /-- In `m_condition.wait()`. -/
  | sleeping
  | delayed

/-- The manager after `m_condition.broadcast()`. -/
def ManagerPhase.broadcast {M : Type} : ManagerPhase M → ManagerPhase M
  | .sleeping => .checking
  | phase => phase

/-- The updater, and what was asked of it and done in the tick. -/
structure MapUpdater (M : Type) where
  phase : ManagerPhase M := .delayed
  pending_requests : Nat := 0
  queue : List M := []
  running : List (MapJob M) := []
  scheduled : List M := []
  updated : List M := []
  /-- `update_finished` has reported a bug. -/
  bug : Bool := false

namespace MapUpdater

variable {M : Type}

/-- It holds `m_mutex`; `ok` says whether the executor takes the request. -/
def schedule_update (s : MapUpdater M) (map : M) (ok : Bool) : MapUpdater M :=
  let s := { s with pending_requests := s.pending_requests + 1 }
  if ok then { s with queue := s.queue ++ [map], scheduled := map :: s.scheduled }
  else { s with pending_requests := s.pending_requests - 1 }

def update_finished (s : MapUpdater M) : MapUpdater M :=
  if s.pending_requests = 0 then { s with bug := true }
  else { s with pending_requests := s.pending_requests - 1, phase := s.phase.broadcast }

@[simp] theorem broadcast_ne_sleeping (phase : ManagerPhase M) : phase.broadcast ≠ .sleeping := by
  cases phase <;> simp [ManagerPhase.broadcast]

theorem broadcast_eq_delayed {phase : ManagerPhase M} (h : phase.broadcast = .delayed) :
    phase = .delayed := by
  cases phase <;> simp_all [ManagerPhase.broadcast]

inductive ManagerStep : MapUpdater M → MapUpdater M → Prop where
  | tick {s : MapUpdater M} (maps : List M) : s.phase = .delayed →
      ManagerStep s { s with phase := .scheduling maps, scheduled := [], updated := [] }
  | schedule {s : MapUpdater M} {map : M} {todo : List M} (ok : Bool) :
      s.phase = .scheduling (map :: todo) →
      ManagerStep s { s.schedule_update map ok with phase := .scheduling todo }
  | wait {s : MapUpdater M} : s.phase = .scheduling [] →
      ManagerStep s { s with phase := .checking }
  | sleep {s : MapUpdater M} : s.phase = .checking → s.pending_requests > 0 →
      ManagerStep s { s with phase := .sleeping }
  | leave {s : MapUpdater M} : s.phase = .checking → ¬ s.pending_requests > 0 →
      ManagerStep s { s with phase := .delayed }
  /-- A condition variable may also wake without a broadcast. -/
  | spurious {s : MapUpdater M} : s.phase = .sleeping →
      ManagerStep s { s with phase := .checking }

inductive ThreadStep (threads : Nat) : MapUpdater M → MapUpdater M → Prop where
  | dequeue {s : MapUpdater M} {map : M} {rest : List M} (instances : List M) :
      s.queue = map :: rest → s.running.length < threads →
      ThreadStep threads s { s with queue := rest, running := .updating map instances :: s.running }
  | passOn {s : MapUpdater M} (jobs : List (MapJob M)) {jobs' : List (MapJob M)} {map inst : M}
      {todo : List M} (ok : Bool) : s.running = jobs ++ .updating map (inst :: todo) :: jobs' →
      ThreadStep threads s { s.schedule_update inst ok with
        running := jobs ++ .updating map todo :: jobs' }
  | update {s : MapUpdater M} (jobs : List (MapJob M)) {jobs' : List (MapJob M)} {map : M} :
      s.running = jobs ++ .updating map [] :: jobs' →
      ThreadStep threads s { s with
        running := jobs ++ .updated :: jobs'
        updated := map :: s.updated }
  | finish {s : MapUpdater M} (jobs : List (MapJob M)) {jobs' : List (MapJob M)} :
      s.running = jobs ++ .updated :: jobs' →
      ThreadStep threads s { s.update_finished with running := jobs ++ jobs' }

/-- One step of the manager or of one of the threads. -/
def Step (threads : Nat) (s s' : MapUpdater M) : Prop := ManagerStep s s' ∨ ThreadStep threads s s'

def work (s : MapUpdater M) : Nat := (s.running.map MapJob.weight).sum

/-- How long the threads can go on before one of them finishes a request: they take at most one
request each, and then work on those in hand. -/
def Shorter (threads : Nat) : MapUpdater M → MapUpdater M → Prop :=
  InvImage (Prod.Lex (· < ·) (· < ·)) fun s => (threads - s.running.length, s.work)

theorem Shorter.wf {threads : Nat} : WellFounded (Shorter (M := M) threads) :=
  InvImage.wf _ (WellFounded.prod_lex wellFounded_lt wellFounded_lt)

variable [DecidableEq M]

/-- The requests are counted as long as they are queued or in hand, `DelayedUpdate` runs alone, and
a manager sleeps on a request. -/
structure Kept (s : MapUpdater M) : Prop where
  pending : s.pending_requests = s.queue.length + s.running.length
  counted : ∀ map, s.scheduled.count map =
    s.queue.count map + s.running.countP (·.updates map) + s.updated.count map
  alone : s.phase = .delayed → s.pending_requests = 0
  asleep : s.phase = .sleeping → 0 < s.pending_requests
  noBug : s.bug = false

variable {threads : Nat} {s s' : MapUpdater M}

theorem Kept.schedule_update (h : s.Kept) (hphase : s.phase ≠ .delayed) (map : M) (ok : Bool) :
    (s.schedule_update map ok).Kept := by
  cases ok with
  | false => exact h
  | true =>
    refine ⟨?_, fun x => ?_, fun hdelayed => absurd hdelayed hphase, fun _ => Nat.succ_pos _, h.noBug⟩
    · have := h.pending
      simp [MapUpdater.schedule_update]
      omega
    · have := h.counted x
      simp [MapUpdater.schedule_update, List.count_cons]
      omega

/-- Nobody is at work in the phase of `DelayedUpdate`. -/
theorem Kept.busy (h : s.Kept) (job : MapJob M) (hjob : job ∈ s.running) : s.phase ≠ .delayed := by
  intro hdelayed
  have := h.alone hdelayed
  have := h.pending
  have := List.length_pos_of_mem hjob
  omega

theorem Kept.none_left (h : s.Kept) (hnone : s.pending_requests = 0) :
    s.queue = [] ∧ s.running = [] := by
  have hpending := h.pending
  exact ⟨List.eq_nil_of_length_eq_zero (by omega), List.eq_nil_of_length_eq_zero (by omega)⟩

theorem Kept.managerStep (h : s.Kept) (hstep : ManagerStep s s') : s'.Kept := by
  cases hstep with
  | tick maps hphase =>
    obtain ⟨hqueue, hrunning⟩ := h.none_left (h.alone hphase)
    exact ⟨h.pending, by simp [hqueue, hrunning], by simp, by simp, h.noBug⟩
  | @schedule map todo ok hphase =>
    have h' := h.schedule_update (by simp [hphase]) map ok
    exact ⟨h'.pending, h'.counted, by simp, by simp, h'.noBug⟩
  | wait hphase => exact ⟨h.pending, h.counted, by simp, by simp, h.noBug⟩
  | sleep hphase hpending => exact ⟨h.pending, h.counted, by simp, fun _ => hpending, h.noBug⟩
  | leave hphase hnone =>
    exact ⟨h.pending, h.counted, fun _ => Nat.eq_zero_of_not_pos hnone, by simp, h.noBug⟩
  | spurious hphase => exact ⟨h.pending, h.counted, by simp, by simp, h.noBug⟩

/-- A thread that finishes its request counts it down and broadcasts. -/
theorem Kept.update_finished_eq (h : s.Kept) {job : MapJob M} (hjob : job ∈ s.running) :
    s.update_finished =
      { s with pending_requests := s.pending_requests - 1, phase := s.phase.broadcast } := by
  have hpending := h.pending
  have := List.length_pos_of_mem hjob
  rw [update_finished, if_neg (by omega)]

theorem Kept.threadStep (h : s.Kept) (hstep : ThreadStep threads s s') : s'.Kept := by
  cases hstep with
  | @dequeue map rest instances hqueue hfree =>
    refine ⟨?_, fun x => ?_, h.alone, h.asleep, h.noBug⟩
    · have := h.pending
      simp [hqueue] at this ⊢
      omega
    · have := h.counted x
      simp [hqueue, List.count_cons, List.countP_cons, MapJob.updates] at this ⊢
      omega
  | @passOn jobs jobs' map inst todo ok hrunning =>
    have h' := h.schedule_update (h.busy (.updating map (inst :: todo)) (by simp [hrunning])) inst ok
    have hsame : (s.schedule_update inst ok).running = s.running := by cases ok <;> rfl
    refine ⟨?_, fun x => ?_, h'.alone, h'.asleep, h'.noBug⟩
    · have := h'.pending
      simpa [hsame, hrunning] using this
    · have := h'.counted x
      simpa [hsame, hrunning, List.countP_cons, MapJob.updates] using this
  | @update jobs jobs' map hrunning =>
    refine ⟨?_, fun x => ?_, h.alone, h.asleep, h.noBug⟩
    · have := h.pending
      simpa [hrunning] using this
    · have := h.counted x
      simp [hrunning, List.count_cons, List.countP_cons, MapJob.updates] at this ⊢
      omega
  | @finish jobs jobs' hrunning =>
    have hmem : .updated ∈ s.running := by simp [hrunning]
    have hbusy := h.busy .updated hmem
    have hpending := h.pending
    simp only [hrunning, List.length_append, List.length_cons] at hpending
    rw [h.update_finished_eq hmem]
    refine ⟨?_, fun x => ?_, fun hdelayed => absurd (broadcast_eq_delayed hdelayed) hbusy, by simp,
      h.noBug⟩
    · simp only [List.length_append]
      omega
    · have := h.counted x
      simpa [hrunning, MapJob.updates] using this

theorem Kept.step (h : s.Kept) (hstep : Step threads s s') : s'.Kept :=
  hstep.elim h.managerStep h.threadStep

/-! ## Wake-up -/

/-- A step of a thread wakes a sleeping manager or brings the threads nearer to the broadcast. -/
theorem Kept.shorter (h : s.Kept) (hphase : s.phase = .sleeping) (hstep : ThreadStep threads s s') :
    s'.phase = .checking ∨ s'.phase = .sleeping ∧ Shorter threads s' s := by
  cases hstep with
  | @dequeue map rest instances hqueue hfree =>
    refine .inr ⟨hphase, Prod.Lex.left _ _ ?_⟩
    simp only [List.length_cons]
    omega
  | @passOn jobs jobs' map inst todo ok hrunning =>
    have hsame : (s.schedule_update inst ok).phase = s.phase := by cases ok <;> rfl
    refine .inr ⟨hsame.trans hphase, ?_⟩
    simp only [Shorter, InvImage, work, hrunning, List.length_append, List.length_cons]
    exact Prod.Lex.right _ (by simp [MapJob.weight])
  | @update jobs jobs' map hrunning =>
    refine .inr ⟨hphase, ?_⟩
    simp only [Shorter, InvImage, work, hrunning, List.length_append, List.length_cons]
    exact Prod.Lex.right _ (by simp [MapJob.weight])
  | @finish jobs jobs' hrunning =>
    have hmem : MapJob.updated ∈ s.running := by simp [hrunning]
    rw [h.update_finished_eq hmem]
    exact .inl (by simp [hphase, ManagerPhase.broadcast])

/-- However the threads go on while the manager sleeps, one of them wakes it. -/
theorem Kept.awaken (h : s.Kept) (hphase : s.phase = .sleeping) (run : Nat → MapUpdater M)
    (hstart : run 0 = s) (hrun : ∀ n, ThreadStep threads (run n) (run (n + 1))) :
    ∃ n, (run n).phase = .checking := by
  have hwf : WellFounded (Shorter (M := M) threads) := Shorter.wf
  induction s using hwf.induction generalizing run with
  | _ s ih =>
    have hfirst := hrun 0
    rw [hstart] at hfirst
    rcases h.shorter hphase hfirst with hwoken | ⟨hsleeping, hshorter⟩
    · exact ⟨1, hwoken⟩
    · obtain ⟨n, hn⟩ := ih _ hshorter (h.threadStep hfirst) hsleeping (fun n => run (n + 1)) rfl
        (fun n => hrun (n + 1))
      exact ⟨n + 1, hn⟩

theorem Kept.threads_go_on (h : s.Kept) (hthreads : 0 < threads) (hpending : 0 < s.pending_requests) :
    ∃ s', ThreadStep threads s s' := by
  have hcount := h.pending
  cases hrunning : s.running with
  | cons job jobs =>
    cases job with
    | updated => exact ⟨_, .finish [] hrunning⟩
    | updating map todo =>
      cases todo with
      | nil => exact ⟨_, .update [] hrunning⟩
      | cons inst todo => exact ⟨_, .passOn [] true hrunning⟩
  | nil =>
    cases hqueue : s.queue with
    | nil =>
      simp [hqueue, hrunning] at hcount
      omega
    | cons map rest => exact ⟨_, .dequeue [] hqueue (by simpa [hrunning] using hthreads)⟩

/-- `update_finished` never finds `pending_requests` at zero.  While `DelayedUpdate` runs no request is
queued or in hand, and the maps updated in the tick are those it was taken for, each as often.  A
manager sleeps only while a request is pending: then a thread can go on, and however the threads do,
one of them wakes it. -/
theorem reachable_barrier (h : Relation.ReflTransGen (Step threads) {} s) :
    s.bug = false ∧
    (s.phase = .delayed → s.queue = [] ∧ s.running = [] ∧ s.updated.Perm s.scheduled) ∧
    (s.phase = .sleeping → 0 < s.pending_requests ∧ (0 < threads → ∃ s', ThreadStep threads s s') ∧
      ∀ run : Nat → MapUpdater M, run 0 = s → (∀ n, ThreadStep threads (run n) (run (n + 1))) →
        ∃ n, (run n).phase = .checking) := by
  have hkept : s.Kept := by
    induction h with
    | refl => exact ⟨rfl, fun _ => rfl, fun _ => rfl, by simp, rfl⟩
    | tail _ hstep ih => exact ih.step hstep
  refine ⟨hkept.noBug, fun hphase => ?_, fun hphase => ?_⟩
  · obtain ⟨hqueue, hrunning⟩ := hkept.none_left (hkept.alone hphase)
    refine ⟨hqueue, hrunning, List.perm_iff_count.mpr fun map => ?_⟩
    have := hkept.counted map
    simp [hqueue, hrunning] at this
    omega
  · have hpending := hkept.asleep hphase
    exact ⟨hpending, fun hthreads => hkept.threads_go_on hthreads hpending, hkept.awaken hphase⟩

/-- A map with one instance, over two threads; the manager sleeps and is woken twice. -/
theorem reachable_barrier_instance : ∃ s : MapUpdater Nat,
    Relation.ReflTransGen (Step 2) {} s ∧ s.phase = .delayed ∧ s.scheduled = [5, 1] ∧
      s.updated.Perm [5, 1] := by
  have hrun : Relation.ReflTransGen (Step 2) {}
      ({ scheduled := [5, 1], updated := [5, 1] } : MapUpdater Nat) :=
    .head (.inl (.tick [1] rfl)) <| .head (.inl (.schedule true rfl)) <| .head (.inl (.wait rfl)) <|
    .head (.inl (.sleep rfl (by decide))) <| .head (.inr (.dequeue [5] rfl (by decide))) <|
    .head (.inr (.passOn [] true rfl)) <| .head (.inr (.update [] rfl)) <|
    .head (.inr (.dequeue [] rfl (by decide))) <| .head (.inr (.finish [.updating 5 []] rfl)) <|
    .head (.inl (.sleep rfl (by decide))) <| .head (.inr (.update [] rfl)) <|
    .head (.inr (.finish [] rfl)) <| .head (.inl (.leave rfl (by decide))) .refl
  exact ⟨_, hrun, rfl, rfl, ((reachable_barrier hrun).2.1 rfl).2.2⟩

end MapUpdater

end SkyfireBG
