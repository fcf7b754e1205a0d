import SkyfireBG.Lib.OrdMap
import SkyfireBG.Lib.Run
import Mathlib.Logic.Function.Basic

/-!
# SkyfireBG.Server.World

The sessions of the world, and the queue of those that wait for one of `m_playerLimit` places.

* `runs_kept` — nobody waits while there is a place, and all know the place they wait at.
-/

namespace SkyfireBG

/-- The settings, and what is asked of a session, which is named by its address. -/
structure WorldConfig (S : Type) where
  m_playerLimit : Nat
  getAccountId : S → Nat
  isPlayerAccount : S → Bool

structure World (S : Type) where
  m_sessions : OrdMap Nat S := ∅
  m_QueuedPlayer : List S := []
  /-- `m_inQueue` of each session. -/
  inQueue : S → Bool := fun _ => false
  /-- The place each session was last sent. -/
  place : S → Nat := fun _ => 0

inductive WorldEvent (S : Type) where
  /-- A session comes from `addSessQueue`: `loading` if the one of its account is being loaded,
  `recently` as `HasRecentlyDisconnected` says. -/
  | add (sess : S) (loading recently : Bool)
  /-- `Update` of the session of account `id` returns false. -/
  | drop (id : Nat)

namespace World

variable {S : Type} [DecidableEq S]

section Code

variable (c : WorldConfig S) (w : World S)

def getActiveSessionCount : Nat := w.m_sessions.size - w.m_QueuedPlayer.length

def getQueuePos (sess : S) : Nat :=
  if sess ∈ w.m_QueuedPlayer then w.m_QueuedPlayer.idxOf sess + 1 else 0

def addQueuedPlayer (sess : S) : World S :=
  let w := { w with
    m_QueuedPlayer := w.m_QueuedPlayer ++ [sess]
    inQueue := Function.update w.inQueue sess true }
  { w with place := Function.update w.place sess (w.getQueuePos sess) }

/-- `SendAuthWaitQue` to the sessions of a list, with places from `position` on. -/
def sendAuthWaitQue : Nat → List S → (S → Nat) → S → Nat
  | _, [], place => place
  | position, sess :: l, place =>
    sendAuthWaitQue (position + 1) l (Function.update place sess position)

def eraseQueued (sess : S) : World S :=
  { w with
    m_QueuedPlayer := w.m_QueuedPlayer.erase sess
    inQueue := if sess ∈ w.m_QueuedPlayer then Function.update w.inQueue sess false else w.inQueue }

/-- The first in the queue is let in, and all others are sent their places. -/
def acceptFirst : World S :=
  match w.m_QueuedPlayer with
  | [] => w
  | pop_sess :: rest => { w with
      m_QueuedPlayer := rest
      inQueue := Function.update w.inQueue pop_sess false
      place := sendAuthWaitQue 1 rest (Function.update w.place pop_sess 0) }

/-- `SendAuthWaitQue` to those behind the first `position` of the queue. -/
def sendPlaces (position : Nat) : World S :=
  { w with place := sendAuthWaitQue (position + 1) (w.m_QueuedPlayer.drop position) w.place }

def removeQueuedPlayer (sess : S) : Bool × World S :=
  let found := decide (sess ∈ w.m_QueuedPlayer)
  let sessions := if found then w.getActiveSessionCount else w.getActiveSessionCount - 1
  let position := w.m_QueuedPlayer.idxOf sess
  let w := w.eraseQueued sess
  (found, if c.m_playerLimit = 0 ∨ sessions < c.m_playerLimit then w.acceptFirst
    else w.sendPlaces position)

/-- `AddSession_` from the entry in `m_sessions` on. -/
def enter (sess : S) (decrease_session recently : Bool) : World S :=
  let w := { w with m_sessions := w.m_sessions.set (c.getAccountId sess) sess }
  let sessions := if decrease_session then w.m_sessions.size - 1 else w.m_sessions.size
  if 0 < c.m_playerLimit ∧ c.m_playerLimit ≤ sessions ∧ c.isPlayerAccount sess = true ∧ !recently
  then w.addQueuedPlayer sess
  else w

def addSession (sess : S) (loading recently : Bool) : World S :=
  match w.m_sessions.find? (c.getAccountId sess) with
  | none => w.enter c sess true recently
  | some old =>
    if loading then w
    else
      let removed := w.removeQueuedPlayer c old
      removed.2.enter c sess (!removed.1) recently

/-- `UpdateSessions` for a session whose `Update` returns false. -/
def dropSession (id : Nat) : World S :=
  match w.m_sessions.find? id with
  | none => w
  | some sess =>
    let w := ((w.removeQueuedPlayer c sess).2.removeQueuedPlayer c sess).2
    { w with m_sessions := w.m_sessions.erase id }

def step : WorldEvent S → World S
  | .add sess loading recently => w.addSession c sess loading recently
  | .drop id => w.dropSession c id

/-- A session that is added is an object of its own. -/
def Fresh : WorldEvent S → Prop
  | .add sess _ _ => ∀ e ∈ w.m_sessions.entries, e.2 ≠ sess
  | .drop _ => True

instance : ∀ e, Decidable (w.Fresh e)
  | .add _ _ _ => inferInstanceAs (Decidable (∀ e ∈ w.m_sessions.entries, e.2 ≠ _))
  | .drop _ => .isTrue trivial

/-- What the sessions in the queue know of it. -/
structure Waits : Prop where
  nodup : w.m_QueuedPlayer.Nodup
  flag : ∀ sess, w.inQueue sess = true ↔ sess ∈ w.m_QueuedPlayer
  places : ∀ sess ∈ w.m_QueuedPlayer, w.place sess = w.m_QueuedPlayer.idxOf sess + 1

structure Kept : Prop extends Waits w where
  accounts : ∀ id sess, w.m_sessions.find? id = some sess → c.getAccountId sess = id
  live : ∀ sess ∈ w.m_QueuedPlayer, w.m_sessions.find? (c.getAccountId sess) = some sess
  full : w.m_QueuedPlayer ≠ [] →
    0 < c.m_playerLimit ∧ c.m_playerLimit ≤ w.getActiveSessionCount

end Code

variable {c : WorldConfig S} {w w₁ : World S} {sess s : S}

theorem sendAuthWaitQue_eq {p : Nat} {l : List S} {place : S → Nat} (h : l.Nodup) :
    sendAuthWaitQue p l place s = if s ∈ l then p + l.idxOf s else place s := by
  induction l generalizing p place with
  | nil => rfl
  | cons x l ih =>
    obtain ⟨hx, hl⟩ := List.nodup_cons.mp h
    rw [sendAuthWaitQue, ih hl]
    by_cases hs : s = x
    · simp [hs, hx]
    · by_cases hmem : s ∈ l
      · simp only [hmem, List.mem_cons, or_true, if_true, List.idxOf_cons_ne _ (Ne.symm hs)]
        omega
      · simp [hs, hmem]

theorem Waits.acceptFirst (h : w.m_QueuedPlayer.Nodup)
    (hflag : ∀ s, w.inQueue s = true ↔ s ∈ w.m_QueuedPlayer) : w.acceptFirst.Waits := by
  rw [World.acceptFirst]
  split
  next hq => exact ⟨h, hflag, by simp [hq]⟩
  next pop rest hq =>
    simp only [hq, List.nodup_cons] at h hflag
    refine ⟨h.2, fun s => ?_, fun s hs => ?_⟩
    · by_cases hs : s = pop
      · simpa [hs] using h.1
      · simpa [hs] using hflag s
    · exact (sendAuthWaitQue_eq h.2).trans (by rw [if_pos hs, Nat.add_comm])

theorem Waits.removed (h : w.Waits) (sess : S) : (w.removeQueuedPlayer c sess).2.Waits := by
  have hnodup : (w.eraseQueued sess).m_QueuedPlayer.Nodup := h.nodup.erase sess
  have hflag : ∀ s, (w.eraseQueued sess).inQueue s = true ↔
      s ∈ (w.eraseQueued sess).m_QueuedPlayer := by
    intro s
    rw [eraseQueued, h.nodup.mem_erase_iff]
    by_cases hmem : sess ∈ w.m_QueuedPlayer <;> by_cases hs : s = sess <;>
      simp [hmem, hs, h.flag]
  simp only [removeQueuedPlayer]
  generalize (if decide (sess ∈ w.m_QueuedPlayer) = true then w.getActiveSessionCount
    else w.getActiveSessionCount - 1) = sessions
  split
  · exact .acceptFirst hnodup hflag
  · refine ⟨hnodup, hflag, fun s hs => ?_⟩
    simp only [sendPlaces, eraseQueued] at hs hnodup ⊢
    rw [sendAuthWaitQue_eq (hnodup.sublist (List.drop_sublist _ _))]
    by_cases hmem : sess ∈ w.m_QueuedPlayer
    · -- those before the one that is erased keep their places
      obtain ⟨l₁, l₂, hl₁, hq, herase⟩ := List.exists_erase_eq hmem
      have hplace := h.places s (List.mem_of_mem_erase hs)
      rw [herase] at hs hnodup ⊢
      rw [hq, List.idxOf_append_of_notMem hl₁, List.idxOf_cons_self, Nat.add_zero, List.drop_left]
      by_cases hs₂ : s ∈ l₂
      · have hs₁ : s ∉ l₁ := fun hs₁ => (List.nodup_append.mp hnodup).2.2 s hs₁ s hs₂ rfl
        rw [if_pos hs₂, List.idxOf_append_of_notMem hs₁]
        omega
      · have hs₁ := (List.mem_append.mp hs).resolve_right hs₂
        rw [if_neg hs₂, hplace, hq, List.idxOf_append_of_mem hs₁, List.idxOf_append_of_mem hs₁]
    · rw [List.erase_of_not_mem hmem] at hs ⊢
      rw [List.idxOf_eq_length hmem, List.drop_length, if_neg List.not_mem_nil, h.places s hs]

theorem Waits.added (h : w.Waits) (hnew : sess ∉ w.m_QueuedPlayer) :
    (w.addQueuedPlayer sess).Waits := by
  have hne : ∀ s ∈ w.m_QueuedPlayer, s ≠ sess := fun s hs heq => hnew (heq ▸ hs)
  refine ⟨?_, fun s => ?_, fun s hs => ?_⟩
  · simpa [addQueuedPlayer, List.nodup_append, h.nodup] using hne
  · by_cases hs : s = sess <;> simp [addQueuedPlayer, hs, h.flag]
  · rcases List.mem_append.mp hs with hs | hs
    · simp [addQueuedPlayer, hne s hs, h.places s hs, List.idxOf_append_of_mem hs]
    · simp [addQueuedPlayer, getQueuePos, List.mem_singleton.mp hs]

omit [DecidableEq S] in
theorem length_le {m : OrdMap Nat S} {l : List S} (hl : l.Nodup)
    (h : ∀ s ∈ l, m.find? (c.getAccountId s) = some s) : l.length ≤ m.size := by
  have hnodup : (l.map fun s => (c.getAccountId s, s)).Nodup :=
    hl.map fun a b heq => congrArg Prod.snd heq
  have hsub : l.map (fun s => (c.getAccountId s, s)) ⊆ m.entries := by
    intro e he
    obtain ⟨s, hs, rfl⟩ := List.mem_map.mp he
    exact OrdMap.find?_eq_some.mp (h s hs)
  have hle := (hnodup.subperm hsub).length_le
  rwa [List.length_map] at hle

/-- What `RemoveQueuedPlayer` leaves: without that session there is still no place for those who wait. -/
structure Removed (c : WorldConfig S) (w : World S) (sess : S) (w₁ : World S) : Prop where
  waits : w₁.Waits
  m_sessions : w₁.m_sessions = w.m_sessions
  gone : sess ∉ w₁.m_QueuedPlayer
  sub : w₁.m_QueuedPlayer.Sublist w.m_QueuedPlayer
  room : w₁.m_QueuedPlayer ≠ [] → 0 < c.m_playerLimit ∧
    c.m_playerLimit + w₁.m_QueuedPlayer.length + 1 ≤ w.m_sessions.size

@[simp] theorem acceptFirst_queue : w.acceptFirst.m_QueuedPlayer = w.m_QueuedPlayer.tail := by
  rw [acceptFirst]
  split <;> simp [*]

@[simp] theorem acceptFirst_sessions : w.acceptFirst.m_sessions = w.m_sessions := by
  rw [acceptFirst]
  split <;> rfl

theorem Kept.removed (h : w.Kept c) (sess : S) :
    Removed c w sess (w.removeQueuedPlayer c sess).2 := by
  have hwaits := h.toWaits.removed (c := c) sess
  have hlen := length_le h.nodup h.live
  have hgone : sess ∉ w.m_QueuedPlayer.erase sess := fun hin => (h.nodup.mem_erase_iff.mp hin).1 rfl
  have hle := List.length_erase_le (a := sess) (l := w.m_QueuedPlayer)
  -- `sessions` are those active without `sess`
  have hcount : (if sess ∈ w.m_QueuedPlayer then w.getActiveSessionCount
      else w.getActiveSessionCount - 1) =
        w.m_sessions.size - (w.m_QueuedPlayer.erase sess).length - 1 := by
    rw [getActiveSessionCount]
    split
    next hmem =>
      have := List.length_pos_of_mem hmem
      rw [List.length_erase_of_mem hmem]
      omega
    next hmem => rw [List.erase_of_not_mem hmem]
  simp only [removeQueuedPlayer, decide_eq_true_eq, hcount] at hwaits ⊢
  split at hwaits
  next haccept =>
    rw [if_pos haccept]
    refine ⟨hwaits, by simp [eraseQueued], ?_, ?_, fun hne => ?_⟩
    all_goals simp only [acceptFirst_queue, eraseQueued] at *
    · exact fun hin => hgone (List.mem_of_mem_tail hin)
    · exact (List.tail_sublist _).trans List.erase_sublist
    · have hpos := List.length_pos_of_ne_nil hne
      rw [List.length_tail] at hpos ⊢
      have := h.full (List.ne_nil_of_length_pos (by omega))
      rw [getActiveSessionCount] at this
      omega
  next haccept =>
    rw [if_neg haccept]
    refine ⟨hwaits, rfl, hgone, List.erase_sublist, fun _ => ?_⟩
    simp only [sendPlaces, eraseQueued]
    omega

theorem Removed.kept (h : w.Kept c) (hr : Removed c w sess w₁) : w₁.Kept c where
  toWaits := hr.waits
  accounts := hr.m_sessions ▸ h.accounts
  live := fun s hs => hr.m_sessions ▸ h.live s (hr.sub.subset hs)
  full := fun hne => by
    have := hr.room hne
    rw [getActiveSessionCount, hr.m_sessions]
    omega

theorem Kept.dropSession (h : w.Kept c) (id : Nat) : (w.dropSession c id).Kept c := by
  rw [World.dropSession]
  cases hs : w.m_sessions.find? id with
  | none => exact h
  | some sess =>
    obtain rfl := h.accounts id sess hs
    have hr := h.removed sess
    have hr' := (hr.kept h).removed sess
    have hsize : (w.m_sessions.erase (c.getAccountId sess)).size + 1 = w.m_sessions.size := by
      rw [OrdMap.size_eq_countP, OrdMap.size_eq_countP, ← OrdMap.countP_erase hs, if_pos rfl]
    have hsessions := hr'.m_sessions.trans hr.m_sessions
    refine ⟨⟨hr'.waits.nodup, hr'.waits.flag, hr'.waits.places⟩, fun i t ht => ?_, fun t ht => ?_,
      fun hne => ?_⟩
    all_goals simp only [getActiveSessionCount, hsessions] at *
    · rw [OrdMap.find?_erase] at ht
      split at ht
      · cases ht
      · exact h.accounts i t ht
    · have hlive := h.live t ((hr'.sub.trans hr.sub).subset ht)
      rw [OrdMap.find?_erase_ne, hlive]
      intro heq
      rw [heq, hs] at hlive
      cases hlive
      exact hr'.gone ht
    · have := hr'.room hne
      rw [hr.m_sessions] at this
      omega

/-- A session is entered into the world `w₁`, which a session of its account may have left. -/
theorem Kept.enter (h : w.Kept c) (hf : ∀ id, w.m_sessions.find? id ≠ some sess)
    (hwaits : w₁.Waits) (hsessions : w₁.m_sessions = w.m_sessions)
    (hsub : w₁.m_QueuedPlayer.Sublist w.m_QueuedPlayer)
    (hother : ∀ s ∈ w₁.m_QueuedPlayer, c.getAccountId s ≠ c.getAccountId sess) {n : Nat}
    (hn : (w.m_sessions.set (c.getAccountId sess) sess).size = n)
    (hroom : w₁.m_QueuedPlayer ≠ [] →
      0 < c.m_playerLimit ∧ c.m_playerLimit + w₁.m_QueuedPlayer.length + 1 ≤ n)
    {decrease : Bool} (hcounted : 0 < c.m_playerLimit →
      c.m_playerLimit ≤ (if decrease then n - 1 else n) → c.m_playerLimit + 1 ≤ n)
    (recently : Bool) : (w₁.enter c sess decrease recently).Kept c := by
  have hnew : sess ∉ w₁.m_QueuedPlayer := fun hmem => hf _ (h.live sess (hsub.subset hmem))
  have haccounts : ∀ id s, (w.m_sessions.set (c.getAccountId sess) sess).find? id = some s →
      c.getAccountId s = id := by
    intro id s hid
    rw [OrdMap.find?_set] at hid
    split at hid
    next heq => exact (Option.some.inj hid) ▸ heq.symm
    · exact h.accounts id s hid
  have hlive : ∀ s ∈ w₁.m_QueuedPlayer,
      (w.m_sessions.set (c.getAccountId sess) sess).find? (c.getAccountId s) = some s :=
    fun s hmem => (OrdMap.find?_set_ne (hother s hmem)).trans (h.live s (hsub.subset hmem))
  simp only [World.enter, hsessions, hn]
  generalize (if decrease = true then n - 1 else n) = sessions at hcounted ⊢
  split
  next hfull =>
    have hcount := hcounted hfull.1 hfull.2.1
    refine ⟨.added ⟨hwaits.nodup, hwaits.flag, hwaits.places⟩ hnew, haccounts, fun s hmem => ?_,
      fun _ => ⟨hfull.1, ?_⟩⟩
    · rcases List.mem_append.mp hmem with hold | hmem
      · exact hlive s hold
      · rw [List.mem_singleton.mp hmem]
        exact OrdMap.find?_set_same
    · simp only [getActiveSessionCount, addQueuedPlayer, List.length_append, List.length_singleton, hn]
      by_cases hne : w₁.m_QueuedPlayer = []
      · simp only [hne, List.length_nil]
        omega
      · have := hroom hne
        omega
  · refine ⟨⟨hwaits.nodup, hwaits.flag, hwaits.places⟩, haccounts, hlive, fun hne => ?_⟩
    have := hroom hne
    simp only [getActiveSessionCount, hn]
    omega

theorem Kept.addSession (h : w.Kept c) (hf : ∀ id, w.m_sessions.find? id ≠ some sess)
    (loading recently : Bool) : (w.addSession c sess loading recently).Kept c := by
  rw [World.addSession]
  cases hold : w.m_sessions.find? (c.getAccountId sess) with
  | none =>
    refine h.enter hf h.toWaits rfl (.refl _) (fun s hs heq => ?_) (OrdMap.size_set_of_none hold)
      (fun hne => ?_) (fun _ hle => ?_) recently
    · have hlive := h.live s hs
      rw [heq, hold] at hlive
      cases hlive
    · have := h.full hne
      rw [getActiveSessionCount] at this
      omega
    · rw [if_pos rfl] at hle
      omega
  | some old =>
    cases loading with
    | true => exact h
    | false =>
      have hr := h.removed old
      have hsize : (w.m_sessions.set (c.getAccountId sess) sess).size = w.m_sessions.size := by
        have hcount := OrdMap.countP_set_of_some (v := sess) (p := fun _ => true) hold
        rw [OrdMap.size_eq_countP, OrdMap.size_eq_countP]
        simpa using hcount
      refine h.enter hf hr.waits hr.m_sessions hr.sub (fun s hs heq => ?_) hsize hr.room
        (fun hpos hle => ?_) recently
      · have hlive := h.live s (hr.sub.subset hs)
        rw [heq, hold] at hlive
        cases hlive
        exact hr.gone hs
      · by_cases hmem : old ∈ w.m_QueuedPlayer
        · have hfull := h.full (List.ne_nil_of_mem hmem)
          have := List.length_pos_of_mem hmem
          rw [getActiveSessionCount] at hfull
          omega
        · simp only [removeQueuedPlayer, hmem, decide_false, Bool.not_false, if_true] at hle
          omega

theorem Kept.step {e : WorldEvent S} (h : w.Kept c) (hf : w.Fresh e) : (w.step c e).Kept c := by
  cases e with
  | add sess loading recently =>
    exact h.addSession (fun id hid => hf _ (OrdMap.find?_eq_some.mp hid) rfl) loading recently
  | drop id => exact h.dropSession id

/-- In every state of the world those who wait are its sessions, each once, their flags say so, each
was last sent its place in the queue, and there are as many active sessions as the limit allows. -/
theorem runs_kept {es : List (WorldEvent S)} (hrun : Run (step c) Fresh {} es w) : w.Kept c := by
  refine hrun.invariant (fun _ _ h hf => h.step hf)
    ⟨⟨.nil, fun s => by simp, by simp⟩, fun id s hs => ?_, by simp, fun h => absurd rfl h⟩
  cases hs

/-- The second of three sessions is let in for the first, and the third is sent its new place. -/
theorem runs_kept_three :
    let c : WorldConfig Nat := ⟨1, id, fun _ => true⟩
    ∃ w, Run (step c) Fresh {} [.add 1 false false, .add 2 false false, .add 3 false false, .drop 1] w ∧
      w.m_QueuedPlayer = [3] ∧ w.place 3 = 1 ∧ 1 ≤ w.getActiveSessionCount := by
  intro c
  have hrun : Run (step c) Fresh {}
      [.add 1 false false, .add 2 false false, .add 3 false false, .drop 1] _ :=
    Admitted.run (by decide)
  exact ⟨_, hrun, by decide, by decide, ((runs_kept hrun).full (by decide)).2⟩

end World

end SkyfireBG
