import SkyfireBG.Lib.Run

/-!
# SkyfireBG.Processor.Fate

`EventProcessor`, one point of its loops after the other.

Events call back: `Execute` and `Abort` may add events, and anyone may mark an event for abort
while the processor waits or while one of these two runs.  So `Update` and `KillAllEvents` stop
where they call an event (`Phase`), and go on when it returns.
-/

namespace SkyfireBG

/-- An element of `m_events`: the time of execution and the event. -/
abbrev Planned := Nat × Nat

inductive Phase where
  | idle
  | updating (p_time : Nat)
  /-- In `Execute` of an event that was taken from the queue. -/
  | executing (p_time event : Nat)
  /-- In `Abort` of an event that was taken from the queue. -/
  | dropping (p_time event : Nat)
  | killing (force : Bool)
  /-- In `Abort` of the element `i_old`, which is still in the queue. -/
  | aborting (force : Bool) (i_old : Planned)
deriving DecidableEq, Repr

inductive Fate where
  | added (event : Nat)
  | executed (event due now : Nat)
  | completed (event : Nat)
  | aborted (event : Nat)
  | deleted (event : Nat)
deriving DecidableEq, Repr

structure EventProcessor where
  m_time : Nat := 0
  /-- The elements of the queue, in `KillAllEvents` those before the iterator. -/
  m_events : List Planned := []
  /-- The elements from the iterator on. -/
  ahead : List Planned := []
  m_aborting : Bool := false
  /-- The events with `to_Abort`. -/
  to_Abort : List Nat := []
  phase : Phase := .idle
  /-- The latest first. -/
  log : List Fate := []
deriving DecidableEq, Repr

/-- `multimap::insert`: after the elements with the same key. -/
def insertPlanned (x : Planned) : List Planned → List Planned
  | [] => [x]
  | y :: rest => if x.1 < y.1 then x :: y :: rest else y :: insertPlanned x rest

inductive EventAction where
  | addEvent (event e_time : Nat)
  | mark (event : Nat)
  | update (p_time : Nat)
  | killAllEvents (force : Bool)
  | turn
  /-- `Execute` returns, or `Abort` with what `IsDeletable` then says. -/
  | returns (result : Bool)
deriving DecidableEq, Repr

namespace EventProcessor

variable (s : EventProcessor)

/-- `AddEvent` does not test `m_aborting`. -/
def addEvent (event e_time : Nat) : EventProcessor :=
  let s := { s with log := .added event :: s.log }
  match s.ahead with
  | [] => { s with m_events := insertPlanned (e_time, event) s.m_events }
  | i :: _ =>
    if e_time < i.1 then { s with m_events := insertPlanned (e_time, event) s.m_events }
    else { s with ahead := insertPlanned (e_time, event) s.ahead }

/-- The condition and the body of the loop of `Update`. -/
def updateTurn (p_time : Nat) : EventProcessor :=
  match s.m_events with
  | [] => { s with phase := .idle }
  | i :: rest =>
    if i.1 ≤ s.m_time then
      if i.2 ∉ s.to_Abort then
        { s with
          m_events := rest
          phase := .executing p_time i.2
          log := .executed i.2 i.1 s.m_time :: s.log }
      else { s with m_events := rest, phase := .dropping p_time i.2 }
    else { s with phase := .idle }

/-- The loop of `KillAllEvents`: the next element is marked and aborted. -/
def killTurn (force : Bool) : EventProcessor :=
  match s.ahead with
  | [] => { s with m_events := if force then [] else s.m_events, phase := .idle }
  | i_old :: i =>
    { s with
      m_events := s.m_events ++ [i_old]
      ahead := i
      to_Abort := i_old.2 :: s.to_Abort
      phase := .aborting force i_old }

def returns (result : Bool) : Option EventProcessor :=
  match s.phase with
  | .executing p_time event =>
    some { s with
      phase := .updating p_time
      log := if result then .deleted event :: .completed event :: s.log else s.log }
  | .dropping p_time event =>
    some { s with
      phase := .updating p_time
      log := .deleted event :: .aborted event :: s.log }
  | .aborting force i_old =>
    some (if force || result then
      { s with
        phase := .killing force
        m_events := if force then s.m_events else s.m_events.erase i_old
        log := .deleted i_old.2 :: .aborted i_old.2 :: s.log }
    else { s with phase := .killing force, log := .aborted i_old.2 :: s.log })
  | _ => none

/-- `none` is an action that does not occur where the processor is. -/
def act : EventAction → Option EventProcessor
  | .addEvent event e_time =>
    match s.phase with
    | .updating _ | .killing _ => none
    | _ => some (s.addEvent event e_time)
  | .mark event =>
    match s.phase with
    | .updating _ | .killing _ => none
    | _ => some { s with to_Abort := event :: s.to_Abort }
  | .update p_time =>
    match s.phase with
    | .idle => some { s with m_time := (s.m_time + p_time) % 2 ^ 64, phase := .updating p_time }
    | _ => none
  | .killAllEvents force =>
    match s.phase with
    | .idle =>
      some { s with
        m_aborting := true
        m_events := []
        ahead := s.m_events
        phase := .killing force }
    | _ => none
  | .turn =>
    match s.phase with
    | .updating p_time => some (s.updateTurn p_time)
    | .killing force => some (s.killTurn force)
    | _ => none
  | .returns result => s.returns result

def step (a : EventAction) : EventProcessor := (s.act a).getD s

end EventProcessor

/-!
## The fate of events

What becomes of the events of an `EventProcessor`.
-/

open Fate

def settlements (log : List Fate) (e : Nat) : Nat :=
  log.count (.completed e) + log.count (.aborted e)

def dues (log : List Fate) : List Nat :=
  log.filterMap fun f => match f with
    | .executed _ due _ => some due
    | _ => none

/-- An event that was added is pending, or it came to its end once and was deleted once. -/
structure Ledger (log : List Fate) (pending : List Nat) : Prop where
  nodup : pending.Nodup
  added : ∀ e ∈ pending, .added e ∈ log
  settled : ∀ e, settlements log e = if .added e ∈ log ∧ e ∉ pending then 1 else 0
  deleted : ∀ e, log.count (.deleted e) = if .added e ∈ log ∧ e ∉ pending then 1 else 0

namespace Ledger

variable {log : List Fate} {p p' : List Nat} {e : Nat} {f : Fate}

theorem nil : Ledger [] [] where
  nodup := List.nodup_nil
  added := by simp
  settled := by simp [settlements]
  deleted := by simp

theorem perm (h : Ledger log p) (hp : p.Perm p') : Ledger log p' where
  nodup := hp.nodup_iff.mp h.nodup
  added e he := h.added e (hp.mem_iff.mpr he)
  settled e := by simpa only [hp.mem_iff] using h.settled e
  deleted e := by simpa only [hp.mem_iff] using h.deleted e

theorem executed (h : Ledger log p) (e due now : Nat) : Ledger (.executed e due now :: log) p where
  nodup := h.nodup
  added e' he := List.mem_cons_of_mem _ (h.added e' he)
  settled e' := by simpa [settlements] using h.settled e'
  deleted e' := by simpa using h.deleted e'

theorem add (h : Ledger log p) (hnew : .added e ∉ log) : Ledger (.added e :: log) (e :: p) where
  nodup := List.nodup_cons.mpr ⟨fun he => hnew (h.added e he), h.nodup⟩
  added e' he' := by
    rcases List.mem_cons.mp he' with rfl | he'
    · exact List.mem_cons_self
    · exact List.mem_cons_of_mem _ (h.added e' he')
  settled e' := by
    have hs := h.settled e'
    by_cases he : e' = e
    · subst he
      simp_all [settlements]
    · simpa [settlements, he] using hs
  deleted e' := by
    have hd := h.deleted e'
    by_cases he : e' = e
    · subst he
      simp_all
    · simpa [he] using hd

theorem readd (h : Ledger log p) (he : e ∈ p) : Ledger (.added e :: log) p where
  nodup := h.nodup
  added e' he' := List.mem_cons_of_mem _ (h.added e' he')
  settled e' := by
    have hs := h.settled e'
    by_cases heq : e' = e
    · subst heq
      simp_all [settlements]
    · simpa [settlements, heq] using hs
  deleted e' := by
    have hd := h.deleted e'
    by_cases heq : e' = e
    · subst heq
      simp_all
    · simpa [heq] using hd

theorem settle (h : Ledger log (e :: p)) (hf : f = .completed e ∨ f = .aborted e) :
    Ledger (.deleted e :: f :: log) p where
  nodup := (List.nodup_cons.mp h.nodup).2
  added e' he' := by
    have hlog := h.added e' (List.mem_cons_of_mem _ he')
    exact List.mem_cons_of_mem _ (List.mem_cons_of_mem _ hlog)
  settled e' := by
    have hs := h.settled e'
    have hout := (List.nodup_cons.mp h.nodup).1
    have hin := h.added e List.mem_cons_self
    by_cases heq : e' = e
    · subst heq
      rcases hf with rfl | rfl <;> simp_all [settlements]
    · have heq' : e ≠ e' := fun h => heq h.symm
      rcases hf with rfl | rfl <;> simpa [settlements, heq, heq'] using hs
  deleted e' := by
    have hd := h.deleted e'
    have hout := (List.nodup_cons.mp h.nodup).1
    have hin := h.added e List.mem_cons_self
    by_cases heq : e' = e
    · subst heq
      rcases hf with rfl | rfl <;> simp_all
    · have heq' : e ≠ e' := fun h => heq h.symm
      rcases hf with rfl | rfl <;> simpa [heq, heq'] using hd

theorem settlements_le_one (h : Ledger log p) (e : Nat) : settlements log e ≤ 1 := by
  rw [h.settled e]
  split <;> omega

end Ledger

theorem insertPlanned_perm (x : Planned) (l : List Planned) : (insertPlanned x l).Perm (x :: l) := by
  induction l with
  | nil => exact List.Perm.refl _
  | cons y l ih =>
    rw [insertPlanned]
    split
    · exact List.Perm.refl _
    · exact (ih.cons y).trans (List.Perm.swap x y l)

theorem mem_insertPlanned {x y : Planned} {l : List Planned} :
    y ∈ insertPlanned x l ↔ y = x ∨ y ∈ l := by
  rw [(insertPlanned_perm x l).mem_iff, List.mem_cons]

abbrev ByDue (l : List Planned) : Prop := l.Pairwise fun x y => x.1 ≤ y.1

theorem ByDue.insertPlanned {l : List Planned} (h : ByDue l) (x : Planned) :
    ByDue (insertPlanned x l) := by
  induction l with
  | nil => exact List.pairwise_singleton _ _
  | cons y l ih =>
    obtain ⟨hy, hl⟩ := List.pairwise_cons.mp h
    rw [SkyfireBG.insertPlanned]
    split
    next hlt =>
      refine List.pairwise_cons.mpr ⟨fun z hz => ?_, h⟩
      rcases List.mem_cons.mp hz with rfl | hz
      · exact Nat.le_of_lt hlt
      · exact Nat.le_trans (Nat.le_of_lt hlt) (hy z hz)
    next hge =>
      refine List.pairwise_cons.mpr ⟨fun z hz => ?_, ih hl⟩
      rcases mem_insertPlanned.mp hz with rfl | hz
      · exact Nat.le_of_not_lt hge
      · exact hy z hz

namespace EventProcessor

variable (s : EventProcessor)

def queue : List Planned := s.m_events ++ s.ahead

def ids : List Nat := s.queue.map Prod.snd

def pending : List Nat :=
  match s.phase with
  | .executing _ event => if event ∈ s.ids then s.ids else event :: s.ids
  | .dropping _ event => event :: s.ids
  | .killing true => s.ahead.map Prod.snd
  | .aborting true i_old => i_old.2 :: s.ahead.map Prod.snd
  | _ => s.ids

/-- An event is new, or adds itself again while it executes; it is not due before one that was
executed; and when `KillAllEvents` is forced it comes behind the iterator.  `Execute` returns
`false` when the event was added again, and an event that was aborted does not refuse deletion. -/
def Meets : EventAction → Prop
  | .addEvent event e_time =>
    (.added event ∈ s.log → ∃ p_time, s.phase = .executing p_time event ∧ event ∉ s.ids) ∧
    (∀ due ∈ dues s.log, due ≤ e_time) ∧
    (∀ i_old, s.phase = .aborting true i_old → ∃ i ∈ s.ahead.head?, i.1 ≤ e_time)
  | .returns result =>
    match s.phase with
    | .executing _ event => result = true ↔ event ∉ s.ids
    | .aborting force _ => force = true ∨ result = true
    | _ => True
  | _ => True

/-- Where the iterator is, and that `i_old` is still in the queue. -/
def Placed : Prop :=
  match s.phase with
  | .killing _ => True
  | .aborting _ i_old => i_old ∈ s.m_events
  | _ => s.ahead = []

structure Kept : Prop where
  ledger : Ledger s.log s.pending
  placed : s.Placed
  byDue : ByDue s.queue
  /-- What is queued is not due before what was executed. -/
  later : ∀ due ∈ dues s.log, ∀ i ∈ s.queue, due ≤ i.1
  ordered : (dues s.log).Pairwise (· ≥ ·)
  due : ∀ event due now, .executed event due now ∈ s.log → due ≤ now

variable {s}

theorem kept_initial : Kept {} where
  ledger := Ledger.nil
  placed := rfl
  byDue := List.Pairwise.nil
  later := by simp [dues]
  ordered := List.Pairwise.nil
  due := by simp

theorem queue_addEvent (event e_time : Nat) :
    (s.addEvent event e_time).queue.Perm ((e_time, event) :: s.queue) := by
  rw [addEvent]
  cases ha : s.ahead with
  | nil => simpa [queue, ha] using insertPlanned_perm _ s.m_events
  | cons i rest =>
    simp only
    split
    · simpa [queue, ha] using (insertPlanned_perm (e_time, event) s.m_events).append_right _
    · have hp := (insertPlanned_perm (e_time, event) (i :: rest)).append_left s.m_events
      simpa [queue, ha] using hp.trans List.perm_middle

theorem byDue_addEvent (h : ByDue s.queue) (event e_time : Nat) :
    ByDue (s.addEvent event e_time).queue := by
  obtain ⟨hbefore, hahead, hcross⟩ := List.pairwise_append.mp h
  rw [addEvent]
  cases ha : s.ahead with
  | nil =>
    have hb := ByDue.insertPlanned hbefore (e_time, event)
    simpa [queue, ha, ByDue] using hb
  | cons i rest =>
    rw [ha] at hahead hcross
    have hfirst : ∀ y ∈ i :: rest, i.1 ≤ y.1 := by
      intro y hy
      rcases List.mem_cons.mp hy with rfl | hy
      · exact Nat.le_refl _
      · exact (List.pairwise_cons.mp hahead).1 y hy
    simp only
    split
    next hlt =>
      simp only [queue]
      refine List.pairwise_append.mpr
        ⟨ByDue.insertPlanned hbefore _, hahead, fun x hx y hy => ?_⟩
      rcases mem_insertPlanned.mp hx with rfl | hx
      · exact Nat.le_trans (Nat.le_of_lt hlt) (hfirst y hy)
      · exact hcross x hx y hy
    next hge =>
      simp only [queue]
      refine List.pairwise_append.mpr
        ⟨hbefore, ByDue.insertPlanned hahead _, fun x hx y hy => ?_⟩
      rcases mem_insertPlanned.mp hy with rfl | hy
      · exact Nat.le_trans (hcross x hx i List.mem_cons_self) (Nat.le_of_not_lt hge)
      · exact hcross x hx y hy

@[simp] theorem addEvent_phase (event e_time : Nat) : (s.addEvent event e_time).phase = s.phase := by
  rw [addEvent]
  split
  · rfl
  · split <;> rfl

@[simp] theorem addEvent_log (event e_time : Nat) :
    (s.addEvent event e_time).log = .added event :: s.log := by
  rw [addEvent]
  split
  · rfl
  · split <;> rfl

theorem ids_addEvent (event e_time : Nat) :
    (s.addEvent event e_time).ids.Perm (event :: s.ids) :=
  (queue_addEvent event e_time).map Prod.snd

theorem mem_ids_addEvent {event e_time e : Nat} :
    e ∈ (s.addEvent event e_time).ids ↔ e = event ∨ e ∈ s.ids := by
  rw [(ids_addEvent event e_time).mem_iff, List.mem_cons]

theorem mem_m_events_addEvent {i : Planned} (hi : i ∈ s.m_events) (event e_time : Nat) :
    i ∈ (s.addEvent event e_time).m_events := by
  rw [addEvent]
  split
  · exact mem_insertPlanned.mpr (.inr hi)
  · split
    · exact mem_insertPlanned.mpr (.inr hi)
    · exact hi

theorem ahead_addEvent_nil (h : s.ahead = []) (event e_time : Nat) :
    (s.addEvent event e_time).ahead = [] := by
  rw [addEvent]
  simp [h]

theorem ahead_addEvent {event e_time : Nat} (h : ∃ i ∈ s.ahead.head?, i.1 ≤ e_time) :
    (s.addEvent event e_time).ahead = insertPlanned (e_time, event) s.ahead := by
  obtain ⟨i, hi, hle⟩ := h
  cases ha : s.ahead with
  | nil => simp [ha] at hi
  | cons j rest =>
    obtain rfl : j = i := by simpa [ha] using hi
    rw [addEvent]
    simp [ha, Nat.not_lt.mpr hle]

theorem pending_addEvent {event e_time : Nat} (hk : ∀ force, s.phase ≠ .killing force)
    (hnew : event ∉ s.pending)
    (hforce : ∀ i_old, s.phase = .aborting true i_old → ∃ i ∈ s.ahead.head?, i.1 ≤ e_time) :
    (s.addEvent event e_time).pending.Perm (event :: s.pending) := by
  have hids := ids_addEvent (s := s) event e_time
  cases hp : s.phase with
  | idle => simpa [pending, hp] using hids
  | updating => simpa [pending, hp] using hids
  | executing p_time x =>
    simp only [pending, hp] at hnew
    simp only [pending, hp, addEvent_phase, mem_ids_addEvent]
    by_cases hx : x ∈ s.ids
    · rw [if_pos hx] at hnew
      rw [if_pos (.inr hx), if_pos hx]
      exact hids
    · rw [if_neg hx] at hnew
      have hne : x ≠ event := fun h => hnew (h ▸ List.mem_cons_self)
      rw [if_neg (by simp [hne, hx]), if_neg hx]
      exact (hids.cons x).trans (List.Perm.swap event x s.ids)
  | dropping p_time x =>
    simp only [pending, hp, addEvent_phase]
    exact (hids.cons x).trans (List.Perm.swap event x s.ids)
  | killing force => exact absurd hp (hk force)
  | aborting force i_old =>
    cases force with
    | false => simpa [pending, hp] using hids
    | true =>
      simp only [pending, hp, addEvent_phase]
      rw [ahead_addEvent (hforce i_old hp)]
      have hahead := (insertPlanned_perm (e_time, event) s.ahead).map Prod.snd
      exact (hahead.cons i_old.2).trans (List.Perm.swap event i_old.2 _)

theorem Kept.addEvent (h : Kept s) {event e_time : Nat} (hk : ∀ force, s.phase ≠ .killing force)
    (hm : s.Meets (.addEvent event e_time)) : Kept (s.addEvent event e_time) := by
  obtain ⟨hagain, hlate, hforce⟩ := hm
  have hqueue := queue_addEvent (s := s) event e_time
  refine ⟨?_, ?_, byDue_addEvent h.byDue event e_time, ?_, ?_, ?_⟩
  · rw [addEvent_log]
    by_cases hlog : .added event ∈ s.log
    · obtain ⟨p_time, hp, hids⟩ := hagain hlog
      have hmem : event ∈ (s.addEvent event e_time).ids := mem_ids_addEvent.mpr (.inl rfl)
      have hledger := h.ledger
      simp only [pending, hp, if_neg hids] at hledger
      simp only [pending, hp, addEvent_phase, if_pos hmem]
      exact (hledger.readd List.mem_cons_self).perm (ids_addEvent event e_time).symm
    · have hnew : event ∉ s.pending := fun he => hlog (h.ledger.added event he)
      exact (h.ledger.add hlog).perm (pending_addEvent hk hnew hforce).symm
  · have hplaced := h.placed
    simp only [Placed] at hplaced ⊢
    rw [addEvent_phase]
    cases hp : s.phase <;> simp only [hp] at hplaced ⊢
    case aborting force i_old => exact mem_m_events_addEvent hplaced event e_time
    all_goals exact ahead_addEvent_nil hplaced event e_time
  · intro due hdue i hi
    rw [addEvent_log] at hdue
    rcases List.mem_cons.mp (hqueue.mem_iff.mp hi) with rfl | hi
    · exact hlate due hdue
    · exact h.later due hdue i hi
  · rw [addEvent_log]
    exact h.ordered
  · intro event' due now hx
    rw [addEvent_log] at hx
    exact h.due event' due now (by simpa using hx)

/-! ## The other steps -/

theorem Kept.shrink {s' : EventProcessor} (h : Kept s) (hledger : Ledger s'.log s'.pending)
    (hplaced : s'.Placed) (hqueue : s'.queue.Sublist s.queue) (hdues : dues s'.log = dues s.log)
    (hlog : ∀ event due now, .executed event due now ∈ s'.log →
      .executed event due now ∈ s.log) : Kept s' where
  ledger := hledger
  placed := hplaced
  byDue := h.byDue.sublist hqueue
  later due hd i hi := h.later due (hdues ▸ hd) i (hqueue.subset hi)
  ordered := hdues ▸ h.ordered
  due event due now hx := h.due event due now (hlog event due now hx)

theorem Kept.mark (h : Kept s) (event : Nat) :
    Kept { s with to_Abort := event :: s.to_Abort } :=
  h.shrink h.ledger h.placed (List.Sublist.refl _) rfl fun _ _ _ hx => hx

theorem Kept.update (h : Kept s) (hp : s.phase = .idle) (p_time : Nat) :
    Kept { s with m_time := (s.m_time + p_time) % 2 ^ 64, phase := .updating p_time } := by
  have hledger := h.ledger
  have hplaced := h.placed
  simp only [pending, hp] at hledger
  simp only [Placed, hp] at hplaced
  exact h.shrink hledger hplaced (List.Sublist.refl _) rfl fun _ _ _ hx => hx

theorem Kept.killAllEvents (h : Kept s) (hp : s.phase = .idle) (force : Bool) :
    Kept { s with
      m_aborting := true
      m_events := []
      ahead := s.m_events
      phase := .killing force } := by
  have hledger := h.ledger
  have hplaced := h.placed
  simp only [pending, hp] at hledger
  simp only [Placed, hp] at hplaced
  have hqueue : s.queue = s.m_events := by simp [queue, hplaced]
  refine h.shrink ?_ trivial ?_ rfl fun _ _ _ hx => hx
  · rw [ids, hqueue] at hledger
    cases force with
    | true => exact hledger
    | false => simpa [pending, ids, queue] using hledger
  · rw [hqueue]
    exact List.Sublist.refl _

theorem Kept.updateTurn (h : Kept s) {p_time : Nat} (hp : s.phase = .updating p_time) :
    Kept (s.updateTurn p_time) := by
  have hledger := h.ledger
  have hplaced := h.placed
  simp only [pending, hp] at hledger
  simp only [Placed, hp] at hplaced
  rw [EventProcessor.updateTurn]
  cases he : s.m_events with
  | nil =>
    simp only
    refine h.shrink ?_ hplaced ?_ rfl fun _ _ _ hx => hx
    · simpa [pending, ids, queue, he] using hledger
    · simp [queue, he]
  | cons i rest =>
    have hqueue : s.queue = i :: rest := by simp [queue, hplaced, he]
    have hbyDue := h.byDue
    rw [ids, hqueue, List.map_cons] at hledger
    rw [hqueue] at hbyDue
    obtain ⟨hfirst, hrest⟩ := List.pairwise_cons.mp hbyDue
    simp only
    by_cases hdue : i.1 ≤ s.m_time
    swap
    · rw [if_neg hdue]
      refine h.shrink ?_ hplaced ?_ rfl fun _ _ _ hx => hx
      · simpa [pending, ids, queue, hplaced] using hledger
      · simp [queue, he]
    rw [if_pos hdue]
    split
    · -- the event is executed
      have hout := (List.nodup_cons.mp hledger.nodup).1
      refine ⟨?_, hplaced, ?_, ?_, ?_, ?_⟩
      · simp only [pending, ids, queue, hplaced, List.append_nil]
        rw [if_neg hout]
        exact hledger.executed i.2 i.1 s.m_time
      · simpa [queue, hplaced, ByDue] using hrest
      · intro due hd j hj
        replace hj : j ∈ rest := by simpa [queue, hplaced] using hj
        replace hd : due = i.1 ∨ due ∈ dues s.log := by simpa [dues] using hd
        rcases hd with rfl | hd
        · exact hfirst j hj
        · exact h.later due hd j (hqueue ▸ List.mem_cons_of_mem i hj)
      · have hlast : ∀ d ∈ dues s.log, i.1 ≥ d := fun d hd =>
          h.later d hd i (hqueue ▸ List.mem_cons_self)
        simpa [dues] using And.intro hlast h.ordered
      · intro event due now hx
        rcases List.mem_cons.mp hx with hx | hx
        · cases hx
          exact hdue
        · exact h.due event due now hx
    · -- the event is aborted
      refine h.shrink ?_ hplaced ?_ rfl fun _ _ _ hx => hx
      · simpa [pending, ids, queue, hplaced] using hledger
      · rw [hqueue]
        simp [queue, hplaced]

theorem Kept.killTurn (h : Kept s) {force : Bool} (hp : s.phase = .killing force) :
    Kept (s.killTurn force) := by
  have hledger := h.ledger
  rw [EventProcessor.killTurn]
  cases ha : s.ahead with
  | nil =>
    simp only
    cases force with
    | false =>
      simp only [pending, hp] at hledger
      refine h.shrink ?_ rfl ?_ rfl fun _ _ _ hx => hx
      · simpa [pending, ids, queue, ha] using hledger
      · simp [queue, ha]
    | true =>
      simp only [pending, hp, ha] at hledger
      refine h.shrink ?_ rfl ?_ rfl fun _ _ _ hx => hx
      · simpa [pending, ids, queue, ha] using hledger
      · simp [queue, ha]
  | cons i_old i =>
    have hplace : i_old ∈ s.m_events ++ [i_old] := by simp
    refine h.shrink ?_ hplace ?_ rfl fun _ _ _ hx => hx
    · cases force with
      | true => simpa [pending, hp, ha] using hledger
      | false => simpa [pending, hp, ha, ids, queue] using hledger
    · simp [queue, ha]

theorem dues_settle {f : Fate} {event : Nat} (hf : f = .completed event ∨ f = .aborted event)
    (log : List Fate) : dues (.deleted event :: f :: log) = dues log := by
  rcases hf with rfl | rfl <;> simp [dues]

theorem executed_of_settle {f : Fate} {event : Nat} (hf : f = .completed event ∨ f = .aborted event)
    {log : List Fate} (event' due now : Nat)
    (hx : .executed event' due now ∈ .deleted event :: f :: log) :
    .executed event' due now ∈ log := by
  rcases hf with rfl | rfl <;> simpa using hx

theorem Kept.returns (h : Kept s) {result : Bool} (hm : s.Meets (.returns result))
    {s' : EventProcessor} (hs : s.returns result = some s') : Kept s' := by
  have hledger := h.ledger
  have hplaced := h.placed
  rw [EventProcessor.returns] at hs
  cases hp : s.phase <;> simp only [hp, reduceCtorEq] at hs
  case executing p_time event =>
    obtain rfl := Option.some.inj hs
    simp only [Meets, hp] at hm
    simp only [pending, hp] at hledger
    simp only [Placed, hp] at hplaced
    cases result with
    | true =>
      rw [if_neg (hm.mp rfl)] at hledger
      exact h.shrink (hledger.settle (.inl rfl)) hplaced (List.Sublist.refl _)
        (dues_settle (.inl rfl) _) (executed_of_settle (.inl rfl))
    | false =>
      have hin : event ∈ s.ids := by
        by_contra hout
        exact Bool.false_ne_true (hm.mpr hout)
      rw [if_pos hin] at hledger
      exact h.shrink hledger hplaced (List.Sublist.refl _) rfl fun _ _ _ hx => hx
  case dropping p_time event =>
    obtain rfl := Option.some.inj hs
    simp only [pending, hp] at hledger
    simp only [Placed, hp] at hplaced
    exact h.shrink (hledger.settle (.inr rfl)) hplaced (List.Sublist.refl _)
      (dues_settle (.inr rfl) _) (executed_of_settle (.inr rfl))
  case aborting force i_old =>
    obtain rfl := Option.some.inj hs
    simp only [Meets, hp] at hm
    simp only [pending, hp] at hledger
    simp only [Placed, hp] at hplaced
    rw [if_pos (by simpa using hm)]
    cases force with
    | true =>
      exact h.shrink (hledger.settle (.inr rfl)) trivial (List.Sublist.refl _)
        (dues_settle (.inr rfl) _) (executed_of_settle (.inr rfl))
    | false =>
      have hperm : s.ids.Perm (i_old.2 :: (s.m_events.erase i_old ++ s.ahead).map Prod.snd) :=
        ((List.perm_cons_erase hplaced).append_right s.ahead).map Prod.snd
      exact h.shrink ((hledger.perm hperm).settle (.inr rfl)) trivial
        (List.erase_sublist.append_right _) (dues_settle (.inr rfl) _)
        (executed_of_settle (.inr rfl))

theorem Kept.act (h : Kept s) {a : EventAction} (hm : s.Meets a) {s' : EventProcessor}
    (hs : s.act a = some s') : Kept s' := by
  cases a with
  | addEvent event e_time =>
    simp only [EventProcessor.act] at hs
    have hk : ∀ force, s.phase ≠ .killing force := by
      intro force hp
      simp [hp] at hs
    have heq : s.addEvent event e_time = s' := by
      split at hs <;> simp_all
    exact heq ▸ h.addEvent hk hm
  | mark event =>
    simp only [EventProcessor.act] at hs
    have heq : { s with to_Abort := event :: s.to_Abort } = s' := by
      split at hs <;> simp_all
    exact heq ▸ h.mark event
  | update p_time =>
    simp only [EventProcessor.act] at hs
    cases hp : s.phase <;> simp only [hp, reduceCtorEq, Option.some.injEq] at hs
    exact hs ▸ h.update hp p_time
  | killAllEvents force =>
    simp only [EventProcessor.act] at hs
    cases hp : s.phase <;> simp only [hp, reduceCtorEq, Option.some.injEq] at hs
    exact hs ▸ h.killAllEvents hp force
  | turn =>
    simp only [EventProcessor.act] at hs
    cases hp : s.phase <;> simp only [hp, reduceCtorEq, Option.some.injEq] at hs
    case updating p_time => exact hs ▸ h.updateTurn hp
    case killing force => exact hs ▸ h.killTurn hp
  | returns result => exact h.returns hm hs

theorem Kept.step (h : Kept s) (a : EventAction) (hm : s.Meets a) : Kept (s.step a) := by
  rw [EventProcessor.step]
  cases hs : s.act a with
  | none => exact h
  | some s' => exact h.act hm hs

structure FateLaw (s : EventProcessor) : Prop where
  ordered : (dues s.log).Pairwise (· ≥ ·)
  due : ∀ event due now, .executed event due now ∈ s.log → due ≤ now
  once : ∀ event, settlements s.log event ≤ 1
  destroyed : ∀ event, s.log.count (.deleted event) = settlements s.log event
  settled : ∀ event, .added event ∈ s.log → event ∉ s.pending → settlements s.log event = 1
  open_ : ∀ event ∈ s.pending, settlements s.log event = 0

theorem Kept.fateLaw (h : Kept s) : s.FateLaw where
  ordered := h.ordered
  due := h.due
  once := h.ledger.settlements_le_one
  destroyed event := (h.ledger.deleted event).trans (h.ledger.settled event).symm
  settled event hadd hout := by rw [h.ledger.settled event, if_pos ⟨hadd, hout⟩]
  open_ event hin := by rw [h.ledger.settled event, if_neg fun hc => hc.2 hin]

/-- When `KillAllEvents` was forced, nothing is left at its end. -/
theorem Kept.emptied (h : Kept s) (hp : s.phase = .killing true) (ha : s.ahead = []) :
    (s.step .turn).queue = [] ∧
      ∀ event, .added event ∈ s.log → (s.step .turn).log.count (.deleted event) = 1 := by
  have hstep : s.step .turn = { s with m_events := [], phase := .idle } := by
    simp [EventProcessor.step, EventProcessor.act, hp, EventProcessor.killTurn, ha]
  rw [hstep]
  refine ⟨by simp [queue, ha], fun event hadd => ?_⟩
  have hd := h.ledger.deleted event
  have hout : event ∉ s.pending := by simp [pending, hp, ha]
  rwa [if_pos ⟨hadd, hout⟩] at hd

theorem Kept.updated (h : Kept s) {p_time : Nat} (hp : s.phase = .updating p_time)
    (hend : (s.step .turn).phase = .idle) :
    ∀ i ∈ (s.step .turn).queue, (s.step .turn).m_time < i.1 := by
  have hplaced := h.placed
  have hbyDue := h.byDue
  simp only [Placed, hp] at hplaced
  simp only [queue, hplaced, List.append_nil] at hbyDue
  have hstep : s.step .turn = s.updateTurn p_time := by
    simp [EventProcessor.step, EventProcessor.act, hp]
  rw [hstep] at hend ⊢
  rw [EventProcessor.updateTurn] at hend ⊢
  cases he : s.m_events with
  | nil => simp [queue, hplaced]
  | cons i rest =>
    rw [he] at hbyDue
    obtain ⟨hfirst, -⟩ := List.pairwise_cons.mp hbyDue
    simp only [he] at hend ⊢
    by_cases hdue : i.1 ≤ s.m_time
    · rw [if_pos hdue] at hend
      split at hend <;> cases hend
    · rw [if_neg hdue]
      intro j hj
      rcases (by simpa [queue, hplaced] using hj : j = i ∨ j ∈ rest) with rfl | hj
      · exact Nat.lt_of_not_le hdue
      · exact Nat.lt_of_lt_of_le (Nat.lt_of_not_le hdue) (hfirst j hj)

/-- In every run in which an event that is aborted does not refuse deletion and none is added
behind the iterator of a forced `KillAllEvents`, each event is executed to its end or aborted,
once, and deleted, once. -/
theorem events_fate {as : List EventAction}
    (hrun : Run EventProcessor.step Meets {} as s) :
    s.FateLaw ∧
      (∀ p_time, s.phase = .updating p_time → (s.step .turn).phase = .idle →
        ∀ i ∈ (s.step .turn).queue, (s.step .turn).m_time < i.1) ∧
      (s.phase = .killing true → s.ahead = [] →
        (s.step .turn).queue = [] ∧
          ∀ event, .added event ∈ s.log → (s.step .turn).log.count (.deleted event) = 1) := by
  have hkept : Kept s := hrun.invariant (fun _ a h hm => h.step a hm) kept_initial
  exact ⟨hkept.fateLaw, fun _ hp hend => hkept.updated hp hend, hkept.emptied⟩

/-- An event is executed and adds another from there, which a forced kill aborts. -/
theorem events_fate_killed :
    (List.foldl EventProcessor.step {} [.addEvent 1 3, .update 4, .turn, .addEvent 2 9,
      .returns true, .turn, .killAllEvents true, .turn, .returns true]).FateLaw := by
  have hrun : Run EventProcessor.step Meets {} [.addEvent 1 3, .update 4, .turn, .addEvent 2 9,
      .returns true, .turn, .killAllEvents true, .turn, .returns true] _ :=
    .cons ⟨fun h => absurd h (by decide), by decide, nofun⟩ <| .cons trivial <| .cons trivial <|
    .cons ⟨fun h => absurd h (by decide), by decide, nofun⟩ <|
    .cons ⟨fun _ => by decide, fun _ => rfl⟩ <| .cons trivial <|
    .cons trivial <| .cons trivial <| .cons (.inl rfl) .nil
  exact (events_fate hrun).1

/-- In a forced `KillAllEvents` the last `Abort` adds an event, which is neither aborted nor
deleted.  An event that refuses deletion is aborted by `KillAllEvents` and again by `Update`. -/
theorem events_lost :
    (let s := List.foldl EventProcessor.step {}
      [.addEvent 1 0, .killAllEvents true, .turn, .addEvent 2 5, .returns true, .turn];
      s.phase = .idle ∧ s.queue = [] ∧ .added 2 ∈ s.log ∧ settlements s.log 2 = 0 ∧
        s.log.count (.deleted 2) = 0) ∧
    (let s := List.foldl EventProcessor.step {}
      [.addEvent 1 0, .killAllEvents false, .turn, .returns false, .turn, .update 0, .turn,
        .returns true];
      s.log.count (.aborted 1) = 2) := by
  decide

end EventProcessor

end SkyfireBG
