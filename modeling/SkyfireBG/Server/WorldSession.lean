import Mathlib.Algebra.Order.Field.Rat
import Mathlib.Data.List.GetD
import Mathlib.Order.Lattice.Nat

/-!
# SkyfireBG.Server.WorldSession

The receive queue of a session: `WorldSession::Update`, the two packet filters, and the queue that it
takes packets from.

A packet is known by the number of its arrival.  Packets arrive, and other threads change the session,
between any two turns of the loop and while a packet is handled.  What a handler does is a parameter; an
exception that it throws is caught and changes nothing more.  `entered`, `taken` and `destroyed` record
what has happened and have no counterpart in the source.
-/

namespace SkyfireBG

inductive SessionStatus where
  | authed
  | loggedIn
  | transfer
  | loggedInOrRecentlyLogout
  | never
  | unhandled
deriving DecidableEq, Repr

inductive PacketProcessing where
  | inplace
  | threadUnsafe
  | threadSafe
deriving DecidableEq, Repr

structure OpcodeHandler where
  status : SessionStatus
  packetProcessing : PacketProcessing
deriving DecidableEq, Repr

def CMSG_SET_ACTIVE_VOICE_CHANNEL : Nat := 0x32A4

structure SessionFlags where
  /-- Whether `_player` is in the world, if there is one. -/
  player : Option Bool := none
  playerRecentlyLogout : Bool := false
  inQueue : Bool := false
  /-- There is a socket, which is not closed. -/
  socket : Bool := true
deriving DecidableEq, Repr

inductive PacketFilter where
  | map
  | world
deriving DecidableEq, Repr

/-- `MapSessionFilter::Process` and `WorldSessionFilter::Process`. -/
def PacketFilter.process (filter : PacketFilter) (flags : SessionFlags) (opHandle : OpcodeHandler) :
    Bool :=
  match opHandle.packetProcessing with
  | .inplace => true
  | .threadUnsafe => filter = .world
  | .threadSafe => match filter with
    | .map => flags.player = some true
    | .world => flags.player ≠ some true

structure QueuedPacket where
  id : Nat
  opcode : Nat
deriving DecidableEq, Repr

inductive PacketOutcome where
  | handled
  | discarded
  | requeued
deriving DecidableEq, Repr

/-- A packet was taken; `delayed` says that it or one before it in the same call was put back. -/
structure TakenPacket where
  id : Nat
  outcome : PacketOutcome
  delayed : Bool
deriving DecidableEq, Repr

structure WorldSession where
  recvQueue : List QueuedPacket := []
  flags : SessionFlags := {}
  arrived : Nat := 0
  entered : List Nat := []
  taken : List TakenPacket := []
  destroyed : List Nat := []
deriving DecidableEq, Repr

abbrev OpcodeTable := Nat → OpcodeHandler

/-- What happens from outside while `Update` runs: the opcodes that arrive before each turn and while its
packet is handled, what other threads change before it, and what its handler does. -/
structure UpdateInput where
  arrivals : List (List Nat × List Nat) := []
  outside : Nat → SessionFlags → SessionFlags := fun _ flags => flags
  handler : Nat → SessionFlags → SessionFlags := fun _ flags => flags

namespace WorldSession

variable (table : OpcodeTable) (s : WorldSession)

/-- `QueuePacket`, which puts a packet at the end. -/
def queuePacket (packet : QueuedPacket) : WorldSession :=
  { s with recvQueue := s.recvQueue ++ [packet], entered := s.entered ++ [packet.id] }

def receive (opcode : Nat) : WorldSession :=
  { s.queuePacket ⟨s.arrived, opcode⟩ with arrived := s.arrived + 1 }

def next (updater : PacketFilter) (firstDelayedPacket : Option Nat) :
    Option (QueuedPacket × WorldSession) :=
  if !s.flags.socket then none
  else match s.recvQueue with
    | [] => none
    | packet :: queue =>
      if some packet.id = firstDelayedPacket then none
      else if updater.process s.flags (table packet.opcode) then
        some (packet, { s with recvQueue := queue })
      else none

def dispatch (packet : QueuedPacket) (handler : SessionFlags → SessionFlags) (flags : SessionFlags) :
    PacketOutcome × SessionFlags :=
  match (table packet.opcode).status with
  | .loggedIn => match flags.player with
    | none => if flags.playerRecentlyLogout then (.discarded, flags) else (.requeued, flags)
    | some true => (.handled, handler flags)
    -- lag can cause such packets to arrive after the player started a transfer
    | some false => (.discarded, flags)
  | .loggedInOrRecentlyLogout =>
    if flags.player = none ∧ flags.playerRecentlyLogout = false then (.discarded, flags)
    else (.handled, handler flags)
  | .transfer =>
    if flags.player = some false then (.handled, handler flags) else (.discarded, flags)
  | .authed =>
    if flags.inQueue then (.discarded, flags)
    else if packet.opcode = CMSG_SET_ACTIVE_VOICE_CHANNEL then (.handled, handler flags)
    else (.handled, handler { flags with playerRecentlyLogout := false })
  | .never | .unhandled => (.discarded, flags)

/-- What is done with a packet that was taken.  `deletePacket` is the flag that all turns of a call
share; it is false from the first packet on that is put back. -/
def finish (packet : QueuedPacket) (outcome : PacketOutcome) (deletePacket : Bool) : WorldSession :=
  let s := { s with taken := s.taken ++ [⟨packet.id, outcome, !deletePacket⟩] }
  let s := if outcome = .requeued then s.queuePacket packet else s
  if deletePacket then { s with destroyed := s.destroyed ++ [packet.id] } else s

/-- The loop in `Update`, `none` where the turns run out. -/
def updateLoop (updater : PacketFilter) (input : UpdateInput) :
    WorldSession → Nat → Nat → Option Nat → Bool → Option WorldSession
  | _, 0, _, _, _ => none
  | s, turns + 1, turn, firstDelayedPacket, deletePacket =>
    let arriving := input.arrivals.getD turn ([], [])
    let s := arriving.1.foldl receive { s with flags := input.outside turn s.flags }
    match s.next table updater firstDelayedPacket with
    | none => some s
    | some (packet, s) =>
      let s := arriving.2.foldl receive s
      let (outcome, flags) := dispatch table packet (input.handler turn) s.flags
      let requeued := decide (outcome = .requeued)
      let deletePacket := deletePacket && !requeued
      updateLoop updater input ({ s with flags := flags }.finish packet outcome deletePacket) turns
        (turn + 1) (if requeued then firstDelayedPacket.or (some packet.id) else firstDelayedPacket)
        deletePacket

end WorldSession

def UpdateInput.remaining (input : UpdateInput) (turn : Nat) : Nat :=
  ((input.arrivals.drop turn).map fun a => a.1.length + a.2.length).sum

inductive SessionEvent where
  | receive (opcode : Nat)
  | update (updater : PacketFilter) (input : UpdateInput)
  /-- Callbacks of queries, logout, and the sessions of others. -/
  | change (f : SessionFlags → SessionFlags)

namespace WorldSession

variable (table : OpcodeTable) (s : WorldSession)

/-- The packets in `Update`, with as many turns as there can be. -/
def update (updater : PacketFilter) (input : UpdateInput) : WorldSession :=
  (s.updateLoop table updater input (s.recvQueue.length + input.remaining 0 + 1) 0 none true).getD s

def step : SessionEvent → WorldSession
  | .receive opcode => s.receive opcode
  | .update updater input => s.update table updater input
  | .change f => { s with flags := f s.flags }

def finished : List Nat :=
  (s.taken.filter fun t => t.outcome ≠ .requeued).map TakenPacket.id

def handled : List Nat :=
  (s.taken.filter fun t => t.outcome = .handled).map TakenPacket.id

def requeued : List Nat :=
  (s.taken.filter fun t => t.outcome = .requeued).map TakenPacket.id

def queued : List Nat := s.recvQueue.map QueuedPacket.id

end WorldSession

/-!
## The queue over a run

What holds of the receive queue of a session in every run.
-/

namespace WorldSession

variable {table : OpcodeTable} {s s' : WorldSession} {packet : QueuedPacket} {hand opcodes : List Nat}
variable {updater : PacketFilter} {input : UpdateInput} {turns turn opcode : Nat}
variable {outcome : PacketOutcome} {first : Option Nat} {deletePacket : Bool}

/-- The invariant, with the packets in `hand` that are taken and not yet finished. -/
structure Orderly (hand : List Nat) (s : WorldSession) : Prop where
  fifo : s.entered = s.taken.map TakenPacket.id ++ (hand ++ s.queued)
  once : (s.finished ++ (hand ++ s.queued)).Nodup
  known : ∀ id, id < s.arrived ↔ id ∈ s.finished ++ (hand ++ s.queued)
  entered : ∀ id ∈ s.entered, id < s.arrived
  destroyed : s.destroyed =
    (s.taken.filter fun t => t.outcome ≠ .requeued ∧ t.delayed = false).map TakenPacket.id
  /-- But for those put back, packets enter in the order of their arrival. -/
  arrival : (s.entered.filter fun id => id ∉ s.requeued).Pairwise (· < ·)

theorem orderly_empty : Orderly [] {} where
  fifo := rfl
  once := .nil
  known := fun id => by simp [finished, queued]
  entered := fun _ hid => nomatch hid
  destroyed := rfl
  arrival := .nil

namespace Orderly

theorem setFlags (flags : SessionFlags) (h : Orderly hand s) :
    Orderly hand { s with flags := flags } :=
  ⟨h.fifo, h.once, h.known, h.entered, h.destroyed, h.arrival⟩

theorem receive (h : Orderly hand s) : Orderly hand (s.receive opcode) := by
  have hqueued : (s.receive opcode).queued = s.queued ++ [s.arrived] := by
    simp [queued, WorldSession.receive, queuePacket]
  have hlist : s.finished ++ (hand ++ (s.queued ++ [s.arrived])) =
      (s.finished ++ (hand ++ s.queued)) ++ [s.arrived] := by
    simp
  constructor
  · rw [hqueued]
    simp only [WorldSession.receive, queuePacket, h.fifo, List.append_assoc]
  · rw [hqueued]
    show (s.finished ++ (hand ++ (s.queued ++ [s.arrived]))).Nodup
    rw [hlist]
    refine List.Nodup.append h.once (List.nodup_singleton _) fun id hid hnew => ?_
    rw [List.mem_singleton.mp hnew] at hid
    exact Nat.lt_irrefl _ ((h.known _).mpr hid)
  · intro id
    rw [hqueued]
    show id < s.arrived + 1 ↔ id ∈ s.finished ++ (hand ++ (s.queued ++ [s.arrived]))
    rw [hlist, List.mem_append, List.mem_singleton, ← h.known]
    omega
  · intro id hid
    rcases List.mem_append.mp hid with hid | hid
    · exact Nat.lt_succ_of_lt (h.entered id hid)
    · rw [List.mem_singleton.mp hid]
      exact Nat.lt_succ_self _
  · exact h.destroyed
  · show ((s.entered ++ [s.arrived]).filter fun id => id ∉ s.requeued).Pairwise (· < ·)
    rw [List.filter_append]
    refine List.pairwise_append.mpr ⟨h.arrival, List.Pairwise.filter _ (List.pairwise_singleton _ _),
      fun id hid new hnew => ?_⟩
    rw [List.mem_singleton.mp (List.mem_of_mem_filter hnew)]
    exact h.entered id (List.mem_of_mem_filter hid)

theorem receiveAll (opcodes : List Nat) (h : Orderly hand s) :
    Orderly hand (opcodes.foldl WorldSession.receive s) := by
  induction opcodes generalizing s with
  | nil => exact h
  | cons opcode opcodes ih => exact ih h.receive

theorem next (h : Orderly [] s) (hnext : s.next table updater first = some (packet, s')) :
    Orderly [packet.id] s' := by
  unfold WorldSession.next at hnext
  split at hnext
  · cases hnext
  cases hqueue : s.recvQueue with
  | nil =>
    rw [hqueue] at hnext
    cases hnext
  | cons p queue =>
    rw [hqueue] at hnext
    simp only at hnext
    split_ifs at hnext
    cases hnext
    have hqueued : s.queued = packet.id :: queue.map QueuedPacket.id := by
      rw [queued, hqueue, List.map_cons]
    have hlist : [] ++ s.queued = [packet.id] ++ queue.map QueuedPacket.id := hqueued
    exact ⟨hlist ▸ h.fifo, hlist ▸ h.once, fun id => hlist ▸ h.known id, h.entered, h.destroyed,
      h.arrival⟩

theorem finish_requeued (h : Orderly [packet.id] s) :
    Orderly [] (s.finish packet .requeued false) := by
  have hfinished : (s.finish packet .requeued false).finished = s.finished := by
    simp [finish, finished, queuePacket]
  have hqueued : (s.finish packet .requeued false).queued = s.queued ++ [packet.id] := by
    simp [finish, queued, queuePacket]
  have hrequeued : (s.finish packet .requeued false).requeued = s.requeued ++ [packet.id] := by
    simp [finish, requeued, queuePacket]
  have hperm : (s.finished ++ ([] ++ (s.queued ++ [packet.id]))).Perm
      (s.finished ++ ([packet.id] ++ s.queued)) := by
    rw [List.nil_append]
    exact List.Perm.append_left _ List.perm_append_comm
  constructor
  · rw [hqueued]
    simp [finish, queuePacket, h.fifo]
  · rw [hfinished, hqueued, hperm.nodup_iff]
    exact h.once
  · intro id
    rw [hfinished, hqueued, hperm.mem_iff]
    exact h.known id
  · intro id hid
    rcases List.mem_append.mp hid with hid | hid
    · exact h.entered id hid
    · rw [List.mem_singleton.mp hid]
      exact (h.known _).mpr (List.mem_append_right _ (List.mem_append_left _ (List.mem_singleton_self _)))
  · simp [finish, queuePacket, h.destroyed]
  · rw [hrequeued]
    show ((s.entered ++ [packet.id]).filter fun id => id ∉ s.requeued ++ [packet.id]).Pairwise (· < ·)
    rw [List.filter_append]
    have hlast : [packet.id].filter (fun id => id ∉ s.requeued ++ [packet.id]) = [] := by simp
    rw [hlast, List.append_nil]
    refine h.arrival.sublist ?_
    refine List.monotone_filter_right _ fun id hid => ?_
    simp only [List.mem_append, not_or, decide_eq_true_eq] at hid ⊢
    exact hid.1

theorem finish_other (h : Orderly [packet.id] s) (hout : outcome ≠ .requeued) :
    Orderly [] (s.finish packet outcome deletePacket) := by
  have hfinished : (s.finish packet outcome deletePacket).finished = s.finished ++ [packet.id] := by
    cases deletePacket <;> simp [finish, finished, hout]
  have hqueued : (s.finish packet outcome deletePacket).queued = s.queued := by
    cases deletePacket <;> simp [finish, queued, hout]
  have hrequeued : (s.finish packet outcome deletePacket).requeued = s.requeued := by
    cases deletePacket <;> simp [finish, requeued, hout]
  have hentered : (s.finish packet outcome deletePacket).entered = s.entered := by
    cases deletePacket <;> simp [finish, hout]
  have harrived : (s.finish packet outcome deletePacket).arrived = s.arrived := by
    cases deletePacket <;> simp [finish, hout]
  have hlist : (s.finished ++ [packet.id]) ++ ([] ++ s.queued) =
      s.finished ++ ([packet.id] ++ s.queued) := by
    simp
  constructor
  · rw [hentered, hqueued, h.fifo]
    cases deletePacket <;> simp [finish, hout]
  · rw [hfinished, hqueued, hlist]
    exact h.once
  · intro id
    rw [hfinished, hqueued, hlist, harrived]
    exact h.known id
  · rw [hentered, harrived]
    exact h.entered
  · cases deletePacket <;> simp [finish, hout, h.destroyed]
  · rw [hentered, hrequeued]
    exact h.arrival

end Orderly

theorem UpdateInput.remaining_eq (input : UpdateInput) (turn : Nat) : input.remaining turn =
    (input.arrivals.getD turn ([], [])).1.length + (input.arrivals.getD turn ([], [])).2.length +
      input.remaining (turn + 1) := by
  unfold SkyfireBG.UpdateInput.remaining
  by_cases hturn : turn < input.arrivals.length
  · rw [List.drop_eq_getElem_cons hturn, List.map_cons, List.sum_cons,
      List.getD_eq_getElem _ _ hturn]
  · rw [List.drop_eq_nil_of_le (by omega), List.drop_eq_nil_of_le (by omega),
      List.getD_eq_default _ _ (by omega)]
    rfl

theorem receiveAll_queued (opcodes : List Nat) (s : WorldSession) : ∃ ids, ids.length = opcodes.length ∧
    (opcodes.foldl receive s).queued = s.queued ++ ids := by
  induction opcodes generalizing s with
  | nil => exact ⟨[], rfl, (List.append_nil _).symm⟩
  | cons opcode opcodes ih =>
    obtain ⟨ids, hlength, hids⟩ := ih (s.receive opcode)
    refine ⟨s.arrived :: ids, by simp [hlength], ?_⟩
    rw [List.foldl_cons, hids]
    simp [queued, receive, queuePacket]

theorem next_queued (h : s.next table updater first = some (packet, s')) :
    s.queued = packet.id :: s'.queued ∧ some packet.id ≠ first := by
  unfold next at h
  split at h
  · cases h
  cases hqueue : s.recvQueue with
  | nil =>
    rw [hqueue] at h
    cases h
  | cons p queue =>
    rw [hqueue] at h
    simp only at h
    split_ifs at h with hfirst
    cases h
    exact ⟨by rw [queued, hqueue, List.map_cons]; rfl, hfirst⟩

theorem finish_queued : (s.finish packet outcome deletePacket).queued =
    s.queued ++ if outcome = .requeued then [packet.id] else [] := by
  by_cases hout : outcome = .requeued <;> cases deletePacket <;>
    simp [finish, queued, queuePacket, hout]

/-- How many packets are in front of the first one that was put back, or can come at all. -/
def ahead (input : UpdateInput) (turn : Nat) (first : Option Nat) (s : WorldSession) : Nat :=
  first.elim (s.queued.length + input.remaining turn) fun id => s.queued.idxOf id

theorem updateLoop_ne_none (hahead : ahead input turn first s < turns)
    (hfirst : ∀ id ∈ first, id ∈ s.queued) :
    s.updateLoop table updater input turns turn first deletePacket ≠ none := by
  induction turns generalizing s turn first deletePacket with
  | zero => exact absurd hahead (Nat.not_lt_zero _)
  | succ turns ih =>
    simp only [updateLoop]
    generalize hbefore : (input.arrivals.getD turn ([], [])).1.foldl receive
      { s with flags := input.outside turn s.flags } = s₁
    have hqueued₁ : ∃ ids, ids.length = (input.arrivals.getD turn ([], [])).1.length ∧
        s₁.queued = s.queued ++ ids := by
      rw [← hbefore]
      exact receiveAll_queued _ _
    obtain ⟨ids₁, hlength₁, hids₁⟩ := hqueued₁
    cases hnext : s₁.next table updater first with
    | none => exact Option.some_ne_none _
    | some taken =>
      obtain ⟨packet, s₂⟩ := taken
      obtain ⟨hqueued₂, hne⟩ := next_queued hnext
      obtain ⟨ids₃, hlength₃, hids₃⟩ :=
        receiveAll_queued (input.arrivals.getD turn ([], [])).2 s₂
      simp only
      generalize (input.arrivals.getD turn ([], [])).2.foldl receive s₂ = s₃ at hids₃
      generalize dispatch table packet (input.handler turn) s₃.flags = result
      obtain ⟨outcome, flags⟩ := result
      have hqueued : ∀ deletes, ({ s₃ with flags := flags }.finish packet outcome deletes).queued =
          s₂.queued ++ ids₃ ++ if outcome = PacketOutcome.requeued then [packet.id] else [] := by
        intro deletes
        rw [finish_queued]
        exact congrArg (· ++ _) hids₃
      have hremaining := UpdateInput.remaining_eq input turn
      have hlength : s.queued.length + ids₁.length = s₂.queued.length + 1 := by
        rw [← List.length_append, ← hids₁, hqueued₂, List.length_cons]
      cases first with
      | none =>
        simp only [ahead, Option.elim_none] at hahead
        by_cases hout : outcome = .requeued
        · -- this packet is the first one that is put back
          have hmem : packet.id ∈ s₂.queued ++ ids₃ ++ [packet.id] :=
            List.mem_append_right _ (List.mem_singleton_self _)
          have hidx := List.idxOf_lt_length_of_mem hmem
          simp only [hout, if_true] at hqueued
          simp only [List.length_append, List.length_singleton] at hidx
          refine ih ?_ ?_
          · simp only [hout, decide_true, if_true, Option.none_or, ahead, Option.elim_some, hqueued]
            omega
          · intro id hid
            simp only [hout, decide_true, if_true, Option.none_or, Option.mem_some_iff] at hid ⊢
            rw [hqueued, ← hid]
            exact hmem
        · refine ih ?_ (fun id hid => by simp [hout] at hid)
          simp only [hout, decide_false, Bool.false_eq_true, if_false, ahead,
            Option.elim_none] at hqueued ⊢
          rw [hqueued]
          simp only [List.append_nil, List.length_append]
          omega
      | some id =>
        -- the first one that was put back comes one step closer
        have hid₁ : id ∈ s₁.queued := hids₁ ▸ List.mem_append_left _ (hfirst id rfl)
        have hne' : packet.id ≠ id := fun heq => hne (congrArg some heq)
        rw [hqueued₂] at hid₁
        have hid₂ : id ∈ s₂.queued := (List.mem_cons.mp hid₁).resolve_left hne'.symm
        have hidx : s.queued.idxOf id = s₂.queued.idxOf id + 1 := by
          have happend : (s.queued ++ ids₁).idxOf id = s.queued.idxOf id :=
            List.idxOf_append_of_mem (hfirst id rfl)
          rw [← happend, ← hids₁, hqueued₂, List.idxOf_cons_ne _ hne']
        have hsame : (if decide (outcome = PacketOutcome.requeued) = true then
            (some id).or (some packet.id) else some id) = some id := by
          split_ifs <;> rfl
        refine ih ?_ ?_
        · simp only [ahead, Option.elim_some] at hahead ⊢
          rw [hsame, Option.elim_some, hqueued, List.append_assoc, List.idxOf_append_of_mem hid₂]
          omega
        · intro id' hid'
          rw [hsame] at hid'
          cases hid'
          rw [hqueued, List.append_assoc]
          exact List.mem_append_left _ hid₂

theorem Orderly.updateLoop (h : Orderly [] s)
    (hrun : s.updateLoop table updater input turns turn first deletePacket = some s') :
    Orderly [] s' := by
  induction turns generalizing s turn first deletePacket with
  | zero => cases hrun
  | succ turns ih =>
    simp only [WorldSession.updateLoop] at hrun
    have hbefore := (h.setFlags (input.outside turn s.flags)).receiveAll
      (input.arrivals.getD turn ([], [])).1
    generalize (input.arrivals.getD turn ([], [])).1.foldl WorldSession.receive
      { s with flags := input.outside turn s.flags } = s₁ at hrun hbefore
    cases hnext : s₁.next table updater first with
    | none =>
      rw [hnext] at hrun
      cases hrun
      exact hbefore
    | some taken =>
      rw [hnext] at hrun
      obtain ⟨packet, s₂⟩ := taken
      have hduring := (hbefore.next hnext).receiveAll (input.arrivals.getD turn ([], [])).2
      simp only at hrun
      generalize (input.arrivals.getD turn ([], [])).2.foldl WorldSession.receive s₂ = s₃
        at hrun hduring
      generalize dispatch table packet (input.handler turn) s₃.flags = result at hrun
      obtain ⟨outcome, flags⟩ := result
      refine ih ?_ hrun
      by_cases hout : outcome = .requeued
      · subst hout
        rw [decide_eq_true rfl, Bool.not_true, Bool.and_false]
        exact (hduring.setFlags flags).finish_requeued
      · exact (hduring.setFlags flags).finish_other hout

theorem Orderly.step {e : SessionEvent} (h : Orderly [] s) : Orderly [] (s.step table e) := by
  cases e with
  | receive opcode => exact h.receive
  | update updater input =>
    show Orderly [] (s.update table updater input)
    unfold WorldSession.update
    cases hrun : s.updateLoop table updater input (s.recvQueue.length + input.remaining 0 + 1) 0
        none true with
    | none => exact h
    | some s' => exact h.updateLoop hrun
  | change f => exact h.setFlags _

structure PacketQueue (table : OpcodeTable) (s : WorldSession) : Prop where
  ends : ∀ updater input, ∃ turns, s.updateLoop table updater input turns 0 none true ≠ none
  /-- Each packet is handled or discarded once at most, and not in the queue any more then. -/
  once : s.finished.Nodup
  gone : ∀ id ∈ s.finished, id ∉ s.queued
  destroyedOnce : s.destroyed.Nodup
  destroyedFinished : ∀ id ∈ s.destroyed, id ∈ s.finished
  /-- Until a packet is put back in a call, those that are not put back are destroyed. -/
  notLeaked : ∀ t ∈ s.taken, t.outcome ≠ .requeued → t.delayed = false → t.id ∈ s.destroyed
  /-- Packets are taken in the order in which they entered the queue. -/
  fifo : s.entered = s.taken.map TakenPacket.id ++ s.queued
  /-- Packets that are never put back are handled in the order of their arrival. -/
  arrival : (s.handled.filter fun id => id ∉ s.requeued).Pairwise (· < ·)

theorem Orderly.packetQueue (h : Orderly [] s) : PacketQueue table s where
  ends := fun updater input => ⟨s.recvQueue.length + input.remaining 0 + 1,
    updateLoop_ne_none (by simp [ahead, queued]) fun id hid => nomatch hid⟩
  once := (List.nodup_append.mp h.once).1
  gone := fun id hid hqueued => (List.nodup_append.mp h.once).2.2 id hid id hqueued rfl
  destroyedOnce := by
    refine (List.nodup_append.mp h.once).1.sublist ?_
    rw [h.destroyed]
    refine List.Sublist.map _ (List.monotone_filter_right _ fun t ht => ?_)
    simp only [decide_eq_true_eq] at ht ⊢
    exact ht.1
  destroyedFinished := by
    intro id hid
    rw [h.destroyed] at hid
    obtain ⟨t, ht, rfl⟩ := List.mem_map.mp hid
    obtain ⟨ht, hcond⟩ := List.mem_filter.mp ht
    refine List.mem_map_of_mem (List.mem_filter.mpr ⟨ht, ?_⟩)
    exact decide_eq_true (of_decide_eq_true hcond).1
  notLeaked := by
    intro t ht hout hdelayed
    rw [h.destroyed]
    exact List.mem_map_of_mem (List.mem_filter.mpr ⟨ht, decide_eq_true ⟨hout, hdelayed⟩⟩)
  fifo := h.fifo
  arrival := by
    refine h.arrival.sublist (List.Sublist.filter _ ?_)
    rw [h.fifo]
    exact (List.filter_sublist.map _).trans (List.sublist_append_left _ _)

/-- In every run the queue is in order: for all packets, filters, arrivals and handlers. -/
theorem packetQueue_run (table : OpcodeTable) (events : List SessionEvent) :
    PacketQueue table (events.foldl (step table) {}) := by
  have horderly : ∀ s : WorldSession, Orderly [] s → Orderly [] (events.foldl (step table) s) := by
    induction events with
    | nil => exact fun _ h => h
    | cons e events ih => exact fun s h => ih _ h.step
  exact (horderly {} orderly_empty).packetQueue

/-- Packets that are handled in place, one of them only when a player is logged in. -/
def lateTable : OpcodeTable := fun opcode => ⟨if opcode = 1 then .loggedIn else .authed, .inplace⟩

def lateEvents : List SessionEvent :=
  [.receive 1, .receive 2, .update .world {}, .change fun flags => { flags with player := some true },
    .update .world {}]

theorem packetQueue_late :
    ¬ (∀ (table : OpcodeTable) (events : List SessionEvent),
      ((events.foldl (step table) {}).handled).Pairwise (· < ·)) ∧
    ¬ ∀ (table : OpcodeTable) (events : List SessionEvent),
      ∀ id ∈ (events.foldl (step table) {}).finished, id ∈ (events.foldl (step table) {}).destroyed := by
  refine ⟨fun h => ?_, fun h => ?_⟩
  · exact absurd (h lateTable lateEvents) (by decide +kernel)
  · exact absurd (h lateTable lateEvents 1) (by decide +kernel)

end WorldSession

end SkyfireBG
