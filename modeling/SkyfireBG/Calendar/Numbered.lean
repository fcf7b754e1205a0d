import SkyfireBG.Calendar.Data

/-!
# SkyfireBG.Calendar.Numbered

What every request keeps.

* `Numbered`     — the ids in use are below the two counters, and an invite that is stored and
  listed by an event is an invite to that event.
* `numbered_run` — in every state of every run.
-/

namespace SkyfireBG

namespace CalendarMgr

variable {s s' : CalendarMgr} {event : CalendarEvent} {invite : CalendarInvite}
variable {eventId inviteId guid own minRank e id p : Nat}

@[simp] theorem idsOf_set {ids : OrdMap Nat (Finset Nat)} {l : Finset Nat} :
    idsOf (ids.set guid l) p = if p = guid then l else idsOf ids p := by
  unfold idsOf
  rw [OrdMap.find?_set]
  split_ifs <;> rfl

theorem mem_addInvite_invites :
    id ∈ (event.addInvite inviteId).invites ↔
      id = inviteId ∧ inviteId ≠ 0 ∨ id ∈ event.invites := by
  unfold CalendarEvent.addInvite
  split_ifs with h <;> simp [h]

@[simp] theorem addInvite_eventId : (event.addInvite inviteId).eventId = event.eventId := by
  unfold CalendarEvent.addInvite
  split_ifs <;> rfl

/-- A request that passes has an event and an invite of its own to it. -/
theorem checkPermisions_ok (h : s.checkPermisions eventId p own minRank = .ok event) :
    s.events.find? eventId = some event ∧ ∃ invite, s.invites.find? own = some invite ∧
      own ∈ event.invites ∧ invite.eventId = event.eventId ∧ invite.invitee = p ∧
        minRank ≤ invite.rank := by
  unfold checkPermisions at h
  cases hevent : s.events.find? eventId with
  | none => simp [hevent] at h
  | some event' =>
    cases hinvite : s.invites.find? own with
    | none => simp [hevent, hinvite] at h
    | some invite =>
      simp only [hevent, hinvite] at h
      split_ifs at h with hhas hown hrank
      cases h
      rw [not_or, not_not, not_not] at hown
      simp only [CalendarEvent.hasInvite, decide_eq_false_iff_not, not_not] at hhas
      exact ⟨rfl, invite, rfl, hhas, hown.1, hown.2, by omega⟩

theorem addInvite_some (h : s.addInvite invite = some s') :
    invite.inviteId ≠ 0 ∧ s.invites.find? invite.inviteId = none ∧
      s' = { s with
        invites := s.invites.set invite.inviteId invite
        playerInvites := s.playerInvites.set invite.invitee
          (insert invite.inviteId (idsOf s.playerInvites invite.invitee))
        playerEvents := s.playerEvents.set invite.invitee
          (insert invite.eventId (idsOf s.playerEvents invite.invitee)) } := by
  unfold addInvite at h
  split_ifs at h with hzero hstored
  refine ⟨hzero, ?_, (Option.some.inj h).symm⟩
  simpa using hstored

theorem addInvite_isSome (invite : CalendarInvite) (hzero : invite.inviteId ≠ 0)
    (hnew : s.invites.find? invite.inviteId = none) : ∃ s', s.addInvite invite = some s' := by
  unfold addInvite
  rw [if_neg hzero, if_neg (by simp [hnew])]
  exact ⟨_, rfl⟩

theorem addEvent_new (hnew : s.events.find? event.eventId = none) :
    (s.addEvent event).getD s = s.setEvent event.eventId event := by
  rw [addEvent, if_neg (by simp [hnew])]
  rfl

@[simp] theorem removeInvite_events : (s.removeInvite inviteId).events = s.events := by
  unfold removeInvite
  split <;> rfl

@[simp] theorem removeInvite_eventNum : (s.removeInvite inviteId).eventNum = s.eventNum := by
  unfold removeInvite
  split <;> rfl

@[simp] theorem removeInvite_inviteNum : (s.removeInvite inviteId).inviteNum = s.inviteNum := by
  unfold removeInvite
  split <;> rfl

theorem removeInvite_invites :
    (s.removeInvite inviteId).invites.find? id =
      if id = inviteId then none else s.invites.find? id := by
  unfold removeInvite
  cases h : s.invites.find? inviteId with
  | none =>
    simp only
    split_ifs with heq
    · rw [heq, h]
    · rfl
  | some invite => exact OrdMap.find?_erase

theorem foldl_removeInvite (s : CalendarMgr) (ids : List Nat) :
    (ids.foldl removeInvite s).events = s.events ∧
      (ids.foldl removeInvite s).eventNum = s.eventNum ∧
      (ids.foldl removeInvite s).inviteNum = s.inviteNum ∧
      ∀ id, (ids.foldl removeInvite s).invites.find? id =
        if id ∈ ids then none else s.invites.find? id := by
  induction ids generalizing s with
  | nil => simp
  | cons id₀ ids ih =>
    obtain ⟨hevents, heventNum, hinviteNum, hinvites⟩ := ih (s.removeInvite id₀)
    refine ⟨by simp [hevents], by simp [heventNum], by simp [hinviteNum], fun id => ?_⟩
    rw [List.foldl_cons, hinvites id, removeInvite_invites]
    by_cases h : id ∈ ids <;> by_cases h' : id = id₀ <;> simp [h, h']

theorem foldl_removeEventOf (s : CalendarMgr) (ids : List Nat) :
    (ids.foldl (removeEventOf e) s).events = s.events ∧
      (ids.foldl (removeEventOf e) s).invites = s.invites ∧
      (ids.foldl (removeEventOf e) s).eventNum = s.eventNum ∧
      (ids.foldl (removeEventOf e) s).inviteNum = s.inviteNum := by
  induction ids generalizing s with
  | nil => exact ⟨rfl, rfl, rfl, rfl⟩
  | cons id ids ih =>
    obtain ⟨h₁, h₂, h₃, h₄⟩ := ih (removeEventOf e s id)
    have hone : (removeEventOf e s id).events = s.events ∧
        (removeEventOf e s id).invites = s.invites ∧
        (removeEventOf e s id).eventNum = s.eventNum ∧
        (removeEventOf e s id).inviteNum = s.inviteNum := by
      unfold removeEventOf
      split <;> exact ⟨rfl, rfl, rfl, rfl⟩
    exact ⟨h₁.trans hone.1, h₂.trans hone.2.1, h₃.trans hone.2.2.1, h₄.trans hone.2.2.2⟩

theorem removeEvent_spec (s : CalendarMgr) (eventId : Nat) :
    (s.removeEvent eventId).invites = s.invites ∧
      (s.removeEvent eventId).eventNum = s.eventNum ∧
      (s.removeEvent eventId).inviteNum = s.inviteNum ∧
      ∀ e, (s.removeEvent eventId).events.find? e =
        if e = eventId then none else s.events.find? e := by
  unfold removeEvent
  cases h : s.events.find? eventId with
  | none =>
    refine ⟨rfl, rfl, rfl, fun e => ?_⟩
    split_ifs with heq
    · rw [heq, h]
    · rfl
  | some event =>
    simp only
    obtain ⟨h₁, h₂, h₃, h₄⟩ := foldl_removeEventOf (e := eventId)
      { s with events := s.events.erase eventId } (ascending event.invites)
    refine ⟨h₂, h₃, h₄, fun e => ?_⟩
    rw [h₁]
    exact OrdMap.find?_erase

structure Numbered (s : CalendarMgr) : Prop where
  events : ∀ e event, s.events.find? e = some event → e ≤ s.eventNum ∧ event.eventId = e
  invites : ∀ id invite, s.invites.find? id = some invite → id ≤ s.inviteNum
  listed : ∀ e event, s.events.find? e = some event → ∀ id ∈ event.invites, id ≤ s.inviteNum ∧
    ∀ invite, s.invites.find? id = some invite → invite.eventId = e

theorem numbered_empty : Numbered {} :=
  ⟨fun _ _ h => (nomatch h), fun _ _ h => (nomatch h), fun _ _ h => (nomatch h)⟩

namespace Numbered

/-- Fewer events and invites are numbered as well. -/
theorem mono (h : Numbered s) (hevents : ∀ e event', s'.events.find? e = some event' →
      ∃ event, s.events.find? e = some event ∧ event'.invites ⊆ event.invites ∧ event'.eventId = e)
    (hinvites : ∀ id invite', s'.invites.find? id = some invite' →
      ∃ invite, s.invites.find? id = some invite ∧ invite'.eventId = invite.eventId)
    (heventNum : s.eventNum ≤ s'.eventNum) (hinviteNum : s.inviteNum ≤ s'.inviteNum) :
    Numbered s' where
  events := by
    intro e event' he
    obtain ⟨event, hevent, -, hid⟩ := hevents e event' he
    exact ⟨(h.events e event hevent).1.trans heventNum, hid⟩
  invites := by
    intro id invite' hid
    obtain ⟨invite, hinvite, -⟩ := hinvites id invite' hid
    exact (h.invites id invite hinvite).trans hinviteNum
  listed := by
    intro e event' he id hid
    obtain ⟨event, hevent, hsub, -⟩ := hevents e event' he
    obtain ⟨hle, hof⟩ := h.listed e event hevent id (hsub hid)
    refine ⟨hle.trans hinviteNum, fun invite' hi => ?_⟩
    obtain ⟨invite, hinvite, heq⟩ := hinvites id invite' hi
    rw [heq]
    exact hof invite hinvite

theorem eventNum_le {n m : Nat} (h : Numbered s) (hn : s.eventNum ≤ n) (hm : s.inviteNum ≤ m) :
    Numbered { s with eventNum := n, inviteNum := m } :=
  h.mono (fun e event he => ⟨event, he, subset_rfl, (h.events e event he).2⟩)
    (fun _ invite hi => ⟨invite, hi, rfl⟩) hn hm

/-- A number that was not given out is in no event and no invite. -/
theorem fresh (h : Numbered s) (hid : s.inviteNum < id) :
    s.invites.find? id = none ∧ ∀ e event, s.events.find? e = some event → id ∉ event.invites := by
  constructor
  · cases hi : s.invites.find? id with
    | none => rfl
    | some invite =>
      have := h.invites id invite hi
      omega
  · intro e event he hmem
    have := (h.listed e event he id hmem).1
    omega

theorem fresh_event (h : Numbered s) (he : s.eventNum < e) : s.events.find? e = none := by
  cases hevent : s.events.find? e with
  | none => rfl
  | some event =>
    have := (h.events e event hevent).1
    omega

theorem setEvent_new (event : CalendarEvent) (h : Numbered s) (hid : event.eventId = s.eventNum)
    (hinvites : event.invites = ∅) : Numbered (s.setEvent event.eventId event) where
  events := by
    intro e event' he
    rw [setEvent, OrdMap.find?_set] at he
    split_ifs at he with heq
    · cases he
      exact ⟨(heq.trans hid).le, heq.symm⟩
    · exact h.events e event' he
  invites := h.invites
  listed := by
    intro e event' he id hmem
    rw [setEvent, OrdMap.find?_set] at he
    split_ifs at he with heq
    · cases he
      rw [hinvites] at hmem
      cases hmem
    · exact h.listed e event' he id hmem

theorem addInvite (h : Numbered s) (hid : s.inviteNum < invite.inviteId)
    (hadd : { s with inviteNum := invite.inviteId }.addInvite invite = some s') : Numbered s' := by
  obtain ⟨-, -, rfl⟩ := addInvite_some hadd
  obtain ⟨hstored, hlisted⟩ := h.fresh hid
  refine ⟨h.events, fun id invite' hi => ?_, fun e event he id hmem => ?_⟩
  · rw [OrdMap.find?_set] at hi
    split_ifs at hi with heq
    · exact heq.le
    · exact (h.invites id invite' hi).trans hid.le
  · obtain ⟨hle, hof⟩ := h.listed e event he id hmem
    refine ⟨hle.trans hid.le, fun invite' hi => ?_⟩
    rw [OrdMap.find?_set_ne (by
      rintro rfl
      exact hlisted e event he hmem)] at hi
    exact hof invite' hi

theorem setEvent_same (h : Numbered s) (hevent : s.events.find? e = some event) :
    Numbered (s.setEvent e event) := by
  refine h.mono (fun e' event' he => ⟨event', ?_, subset_rfl, ?_⟩)
    (fun _ invite' hi => ⟨invite', hi, rfl⟩) le_rfl le_rfl
  · rw [setEvent, OrdMap.find?_set] at he
    split_ifs at he with heq
    · rw [heq, hevent, he]
    · exact he
  · rw [setEvent, OrdMap.find?_set] at he
    split_ifs at he with heq
    · cases he
      rw [heq]
      exact (h.events e _ hevent).2
    · exact (h.events e' event' he).2

theorem addInvite_listed (h : Numbered (s.setEvent e event)) (heq : invite.eventId = e)
    (hid : s.inviteNum < invite.inviteId)
    (hadd : { s with inviteNum := invite.inviteId }.addInvite invite = some s') :
    Numbered (s'.setEvent e (event.addInvite invite.inviteId)) := by
  obtain ⟨-, -, rfl⟩ := addInvite_some hadd
  obtain ⟨hstored, hlisted⟩ := h.fresh hid
  have hfind : ∀ e' event', (s.events.set e (event.addInvite invite.inviteId)).find? e' =
      some event' → ∃ event₀, (s.events.set e event).find? e' = some event₀ ∧
        event'.eventId = event₀.eventId ∧ ∀ id ∈ event'.invites,
          id = invite.inviteId ∧ e' = e ∨ id ∈ event₀.invites := by
    intro e' event' he
    rw [OrdMap.find?_set] at he ⊢
    split_ifs at he ⊢ with he'
    · cases he
      refine ⟨event, rfl, addInvite_eventId, fun id hmem => ?_⟩
      exact (mem_addInvite_invites.mp hmem).imp (fun h => ⟨h.1, he'⟩) (fun h => h)
    · exact ⟨event', he, rfl, fun id hmem => .inr hmem⟩
  refine ⟨fun e' event' he => ?_, fun id invite' hi => ?_, fun e' event' he id hmem => ?_⟩
  · obtain ⟨event₀, he₀, hide, -⟩ := hfind e' event' he
    rw [hide]
    exact h.events e' event₀ he₀
  · rw [setEvent, OrdMap.find?_set] at hi
    split_ifs at hi with heq
    · exact heq.le
    · exact (h.invites id invite' hi).trans hid.le
  · obtain ⟨event₀, he₀, -, hmem₀⟩ := hfind e' event' he
    rcases hmem₀ id hmem with ⟨rfl, rfl⟩ | hmem₀
    · refine ⟨le_rfl, fun invite' hi => ?_⟩
      rw [setEvent, OrdMap.find?_set_same] at hi
      cases hi
      exact heq
    · obtain ⟨hle, hof⟩ := h.listed e' event₀ he₀ id hmem₀
      refine ⟨hle.trans hid.le, fun invite' hi => ?_⟩
      rw [setEvent, OrdMap.find?_set_ne (by
        rintro rfl
        exact hlisted e' event₀ he₀ hmem₀)] at hi
      exact hof invite' hi

/-! ## Requests -/

theorem copyInvite (id : Nat) (h : Numbered (s.setEvent event.eventId event)) :
    Numbered ((CalendarMgr.copyInvite p (s, event) id).1.setEvent
      (CalendarMgr.copyInvite p (s, event) id).2.eventId
      (CalendarMgr.copyInvite p (s, event) id).2) := by
  unfold CalendarMgr.copyInvite
  cases hi : s.invites.find? id with
  | none => exact h
  | some invite =>
    obtain ⟨s', hs'⟩ := addInvite_isSome (s := { s with inviteNum := s.inviteNum + 1 })
        { inviteId := s.inviteNum + 1, eventId := event.eventId, senderGUID := p,
          invitee := invite.invitee, status := invite.status, statusTime := invite.statusTime,
          text := invite.text, rank := invite.rank } (Nat.succ_ne_zero _)
      (h.fresh (Nat.lt_succ_self s.inviteNum)).1
    simp only [hs', addInvite_eventId]
    exact h.addInvite_listed rfl (Nat.lt_succ_self s.inviteNum) hs'

theorem copyInvites (event : CalendarEvent) (ids : List Nat)
    (h : Numbered (s.setEvent event.eventId event)) :
    Numbered ((ids.foldl (CalendarMgr.copyInvite p) (s, event)).1.setEvent
      (ids.foldl (CalendarMgr.copyInvite p) (s, event)).2.eventId
      (ids.foldl (CalendarMgr.copyInvite p) (s, event)).2) := by
  induction ids generalizing s event with
  | nil => exact h
  | cons id ids ih => exact ih _ (h.copyInvite id)

end Numbered

theorem copyInvite_frame : (copyInvite p (s, event) id).1.events = s.events ∧
    (copyInvite p (s, event) id).2.eventId = event.eventId := by
  unfold copyInvite
  cases s.invites.find? id with
  | none => exact ⟨rfl, rfl⟩
  | some invite =>
    simp only
    split
    · exact ⟨rfl, rfl⟩
    · rename_i s' hs'
      obtain ⟨-, -, rfl⟩ := addInvite_some hs'
      exact ⟨rfl, addInvite_eventId⟩

theorem copyInvites_frame (s : CalendarMgr) (event : CalendarEvent) (ids : List Nat) :
    (ids.foldl (copyInvite p) (s, event)).1.events = s.events ∧
      (ids.foldl (copyInvite p) (s, event)).2.eventId = event.eventId := by
  induction ids generalizing s event with
  | nil => exact ⟨rfl, rfl⟩
  | cons id ids ih =>
    obtain ⟨hevents, heventId⟩ := ih (copyInvite p (s, event) id).1
      (copyInvite p (s, event) id).2
    exact ⟨hevents.trans copyInvite_frame.1, heventId.trans copyInvite_frame.2⟩

/-- A copy of an event is stored once, after its invites were copied. -/
theorem copyEvent_eq (action : CalendarAction) (h : Numbered s)
    (hcheck : s.checkPermisions action.event.eventId action.player action.inviteId
      CALENDAR_RANK_OWNER = .ok event) :
    ∃ s' event', (ascending event.invites).foldl (copyInvite action.player)
        ({ s with eventNum := s.eventNum + 1 },
          copiedEvent event (s.eventNum + 1) action.event.eventTime) = (s', event') ∧
      s'.events = s.events ∧ event'.eventId = s.eventNum + 1 ∧
      s.copyEvent action = s'.setEvent event'.eventId event' := by
  obtain ⟨hevents, heventId⟩ := copyInvites_frame (p := action.player)
    { s with eventNum := s.eventNum + 1 }
    (copiedEvent event (s.eventNum + 1) action.event.eventTime) (ascending event.invites)
  refine ⟨_, _, rfl, hevents, heventId, ?_⟩
  rw [copyEvent, hcheck]
  refine addEvent_new ?_
  rw [hevents, heventId]
  exact h.fresh_event (Nat.lt_succ_self s.eventNum)

theorem addInvite_setEvent :
    (s.setEvent e event).addInvite invite = (s.addInvite invite).map (·.setEvent e event) := by
  by_cases hzero : invite.inviteId = 0
  · simp [addInvite, hzero]
  · cases hstored : s.invites.find? invite.inviteId with
    | none => simp [addInvite, setEvent, hzero, hstored, addPlayerInvite, addPlayerEvent]
    | some _ => simp [addInvite, setEvent, hzero, hstored]

/-- The invite of `HandleCalendarAddEvent`. -/
def newInvite (guid eventId inviteId invitee status rank : Nat) : CalendarInvite where
  inviteId := inviteId
  eventId := eventId
  invitee := invitee
  status := status
  rank := rank
  senderGUID := guid

/-- An event is added with its invites, or nothing happens. -/
theorem handleCalendarAddEvent_cases {guildId inviteCount invitee status rank : Nat}
    {data : CalendarEventData} (h : Numbered s) :
    s.handleCalendarAddEvent guid guildId data inviteCount invitee status rank = s ∨
    s.handleCalendarAddEvent guid guildId data inviteCount invitee status rank =
      { s with eventNum := s.eventNum + 1 }.setEvent (s.eventNum + 1)
        (newEvent guid guildId data (s.eventNum + 1)) ∨
    ∃ s', { s with eventNum := s.eventNum + 1, inviteNum := s.inviteNum + 1 }.addInvite
        (newInvite guid (s.eventNum + 1) (s.inviteNum + 1) guid status rank) = some s' ∧
      s.handleCalendarAddEvent guid guildId data inviteCount invitee status rank =
        s'.setEvent (s.eventNum + 1)
          ((newEvent guid guildId data (s.eventNum + 1)).addInvite (s.inviteNum + 1)) := by
  have hfresh := h.fresh_event (Nat.lt_succ_self s.eventNum)
  have hadd : ∀ (n : Nat) (event : CalendarEvent), event.eventId = s.eventNum + 1 →
      { s with eventNum := s.eventNum + 1, inviteNum := n }.addEvent event =
        some ({ s with eventNum := s.eventNum + 1, inviteNum := n }.setEvent (s.eventNum + 1)
          event) := by
    intro n event hid
    rw [addEvent, hid, if_neg (by simp [hfresh])]
    rfl
  unfold handleCalendarAddEvent
  split_ifs with hflag hbad
  · exact .inl rfl
  · refine .inr (.inr ?_)
    rw [not_or, not_not, not_not] at hbad
    obtain ⟨s', hs'⟩ := addInvite_isSome
      (s := { s with eventNum := s.eventNum + 1, inviteNum := s.inviteNum + 1 })
      (newInvite guid (s.eventNum + 1) (s.inviteNum + 1) guid status rank) (Nat.succ_ne_zero _)
      (h.fresh (Nat.lt_succ_self s.inviteNum)).1
    refine ⟨s', hs', ?_⟩
    rw [addNewEvent, addAction]
    simp only [hbad.2]
    rw [hadd _ _ addInvite_eventId]
    simp only
    rw [addInvite_setEvent]
    unfold newInvite at hs'
    rw [hs']
    rfl
  · refine .inr (.inl ?_)
    rw [addNewEvent, addAction]
    simp only
    rw [hadd _ _ addInvite_eventId]
    rfl

namespace Numbered

variable {action : CalendarAction} {now : Nat}

theorem copyEvent (h : Numbered s) : Numbered (s.copyEvent action) := by
  cases hcheck : s.checkPermisions action.event.eventId action.player action.inviteId
    CALENDAR_RANK_OWNER with
  | error _ =>
    rw [CalendarMgr.copyEvent, hcheck]
    exact h
  | ok event =>
    obtain ⟨s', event', hfold, -, -, heq⟩ := copyEvent_eq action h hcheck
    rw [heq]
    have hnew : Numbered ({ s with eventNum := s.eventNum + 1 }.setEvent (s.eventNum + 1)
        (copiedEvent event (s.eventNum + 1) action.event.eventTime)) :=
      (h.eventNum_le (Nat.le_succ _) le_rfl).setEvent_new
        (copiedEvent event (s.eventNum + 1) action.event.eventTime) rfl rfl
    have hcopied := copyInvites (p := action.player)
      (copiedEvent event (s.eventNum + 1) action.event.eventTime) (ascending event.invites) hnew
    rw [hfold] at hcopied
    exact hcopied

theorem modifyEvent (h : Numbered s) : Numbered (s.modifyEvent action) := by
  unfold CalendarMgr.modifyEvent
  cases hcheck : s.checkPermisions action.event.eventId action.player action.inviteId
    CALENDAR_RANK_MODERATOR with
  | error _ => exact h
  | ok event =>
    obtain ⟨hevent, -⟩ := checkPermisions_ok hcheck
    refine h.mono (fun e event' he => ?_) (fun _ invite' hi => ⟨invite', hi, rfl⟩) le_rfl le_rfl
    simp only [setEvent, OrdMap.find?_set] at he
    split_ifs at he with heq
    · cases he
      exact ⟨event, heq ▸ hevent, subset_rfl, heq.symm⟩
    · exact ⟨event', he, subset_rfl, (h.events e event' he).2⟩

theorem removeInvite (h : Numbered s) : Numbered (s.removeInvite id) := by
  refine h.mono (fun e event he => ⟨event, ?_, subset_rfl, ?_⟩) (fun id' invite hi => ?_) (by simp)
    (by simp)
  · simpa using he
  · exact (h.events e event (by simpa using he)).2
  · rw [removeInvite_invites] at hi
    split_ifs at hi
    exact ⟨invite, hi, rfl⟩

theorem removeEventAction (h : Numbered s) : Numbered (s.removeEventAction action) := by
  unfold CalendarMgr.removeEventAction
  split
  · exact h
  · rename_i event hcheck
    obtain ⟨hevents, heventNum, hinviteNum, hinvites⟩ :=
      foldl_removeInvite s (ascending event.invites)
    obtain ⟨hinvites', heventNum', hinviteNum', hevents'⟩ :=
      removeEvent_spec ((ascending event.invites).foldl CalendarMgr.removeInvite s)
        action.event.eventId
    refine h.mono (fun e event' he => ?_) (fun id invite hi => ?_)
      (by rw [heventNum', heventNum]) (by rw [hinviteNum', hinviteNum])
    · rw [hevents', hevents] at he
      split_ifs at he
      exact ⟨event', he, subset_rfl, (h.events e event' he).2⟩
    · rw [hinvites', hinvites] at hi
      split_ifs at hi
      exact ⟨invite, hi, rfl⟩

theorem modifyEventInvite {minRank : Nat} (h : Numbered s) :
    Numbered (s.modifyEventInvite action minRank) := by
  unfold CalendarMgr.modifyEventInvite
  simp only
  split
  · rename_i event invite hevent hinvite
    split_ifs
    · exact h
    · refine h.mono (fun e event he => ⟨event, he, subset_rfl, (h.events e event he).2⟩)
        (fun id invite' hi => ?_) le_rfl le_rfl
      rw [OrdMap.find?_set] at hi
      split_ifs at hi with heq
      · cases hi
        exact ⟨invite, heq ▸ hinvite, rfl⟩
      · exact ⟨invite', hi, rfl⟩
  · exact h

theorem removeEventInvite (h : Numbered s) : Numbered (s.removeEventInvite action) := by
  unfold CalendarMgr.removeEventInvite
  split
  · exact h
  · split
    · exact h
    · split_ifs
      · exact h
      · exact h.removeInvite

theorem signupToEvent (h : Numbered s) : Numbered (s.signupToEvent action now) := by
  unfold CalendarMgr.signupToEvent
  split
  · exact h
  · split_ifs
    · exact h
    · obtain ⟨s', hs'⟩ := addInvite_isSome (s := { s with inviteNum := s.inviteNum + 1 })
        (s.signupInvite action now) (Nat.succ_ne_zero _)
        (h.fresh (Nat.lt_succ_self s.inviteNum)).1
      simp only [hs', Option.getD_some]
      exact h.addInvite (Nat.lt_succ_self s.inviteNum) hs'

theorem addEventInvite (h : Numbered s) (hid : action.invite.inviteId = s.inviteNum + 1) :
    Numbered ({ s with inviteNum := s.inviteNum + 1 }.addEventInvite action) := by
  have hnum := h.eventNum_le le_rfl (Nat.le_succ s.inviteNum)
  unfold CalendarMgr.addEventInvite
  split
  · exact hnum
  · rename_i event hcheck
    obtain ⟨hevent, -⟩ := checkPermisions_ok hcheck
    split
    · exact hnum
    · rename_i s' hs'
      rw [← hid] at hs'
      exact (h.setEvent_same hevent).addInvite_listed rfl (by rw [hid]; exact Nat.lt_succ_self _) hs'

theorem handleCalendarAddEvent {guildId inviteCount invitee status rank : Nat}
    {data : CalendarEventData} (h : Numbered s) : Numbered
      (s.handleCalendarAddEvent guid guildId data inviteCount invitee status rank) := by
  have hnew : Numbered ({ s with eventNum := s.eventNum + 1 }.setEvent (s.eventNum + 1)
      (newEvent guid guildId data (s.eventNum + 1))) :=
    (h.eventNum_le (Nat.le_succ _) le_rfl).setEvent_new
      (newEvent guid guildId data (s.eventNum + 1)) rfl rfl
  rcases handleCalendarAddEvent_cases h with heq | heq | ⟨s', hs', heq⟩
  · rw [heq]
    exact h
  · rw [heq]
    exact hnew
  · rw [heq]
    exact hnew.addInvite_listed rfl (Nat.lt_succ_self s.inviteNum) hs'

/-- Every request keeps to numbers that were given out. -/
theorem step {request : CalendarRequest} (h : Numbered s) : Numbered (s.step request) := by
  cases request with
  | addEvent guid guildId data inviteCount invitee status rank => exact h.handleCalendarAddEvent
  | updateEvent guid eventId inviteId data => exact h.modifyEvent
  | removeEvent guid eventId inviteId flags => exact h.removeEventAction
  | copyEvent guid eventId inviteId time => exact h.copyEvent
  | eventInvite guid team eventId inviteId named status rank =>
    simp only [CalendarMgr.step, handleCalendarEventInvite]
    split_ifs
    · exact h
    · exact h
    · exact h.addEventInvite rfl
  | eventSignup guid guildId eventId status now => exact h.signupToEvent
  | eventRsvp guid eventId inviteId status => exact h.modifyEventInvite
  | eventRemoveInvite guid invitee inviteId owninviteId eventId => exact h.removeEventInvite
  | eventStatus guid invitee eventId inviteId owninviteId status => exact h.modifyEventInvite
  | eventModeratorStatus guid invitee eventId inviteId owninviteId status =>
    exact h.modifyEventInvite

end Numbered

theorem numbered_run {requests : List CalendarRequest} {ok : CalendarMgr → CalendarRequest → Prop}
    (h : Run CalendarMgr.step ok {} requests s) : Numbered s :=
  h.invariant (fun _ _ hs _ => hs.step) numbered_empty

end CalendarMgr

end SkyfireBG
