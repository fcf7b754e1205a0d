import SkyfireBG.Calendar.Numbered

/-!
# SkyfireBG.Calendar.Integral

The four maps of the calendar against each other.

* `Integral`     — stored invites, the lists of the events and the two lists of each player agree.
* `integral_run` — they agree in every run without a sign-up and without a removal.
-/

namespace SkyfireBG

namespace CalendarMgr

variable {s s' : CalendarMgr} {event : CalendarEvent} {invite : CalendarInvite}
variable {e id p : Nat} {action : CalendarAction}

structure Integral (s : CalendarMgr) : Prop where
  invites : ∀ id invite, s.invites.find? id = some invite →
    ∃ event, s.events.find? invite.eventId = some event ∧ id ∈ event.invites
  listed : ∀ e event, s.events.find? e = some event → ∀ id ∈ event.invites,
    ∃ invite, s.invites.find? id = some invite
  playerInvites : ∀ p id, id ∈ idsOf s.playerInvites p ↔
    ∃ invite, s.invites.find? id = some invite ∧ invite.invitee = p
  playerEvents : ∀ p e, e ∈ idsOf s.playerEvents p ↔
    ∃ id invite, s.invites.find? id = some invite ∧ invite.invitee = p ∧ invite.eventId = e

theorem integral_empty : Integral {} where
  invites := fun _ _ h => nomatch h
  listed := fun _ _ h => nomatch h
  playerInvites := fun _ _ => ⟨fun h => (nomatch h), fun ⟨_, h, _⟩ => (nomatch h)⟩
  playerEvents := fun _ _ => ⟨fun h => (nomatch h), fun ⟨_, _, h, _⟩ => (nomatch h)⟩

namespace Integral

theorem nums {n m : Nat} (h : Integral s) :
    Integral { s with eventNum := n, inviteNum := m } :=
  ⟨h.invites, h.listed, h.playerInvites, h.playerEvents⟩

theorem same (h : Integral s)
    (hevents : ∀ e, (s'.events.find? e).map CalendarEvent.invites =
      (s.events.find? e).map CalendarEvent.invites)
    (hinvites : ∀ id, (s'.invites.find? id).map (fun i => (i.invitee, i.eventId)) =
      (s.invites.find? id).map fun i => (i.invitee, i.eventId))
    (hplayerInvites : s'.playerInvites = s.playerInvites)
    (hplayerEvents : s'.playerEvents = s.playerEvents) : Integral s' := by
  have hevent : ∀ e l, (∃ event, s'.events.find? e = some event ∧ event.invites = l) ↔
      ∃ event, s.events.find? e = some event ∧ event.invites = l := by
    intro e l
    rw [← Option.map_eq_some_iff, ← Option.map_eq_some_iff, hevents]
  have hinvite : ∀ id p e, (∃ invite, s'.invites.find? id = some invite ∧
      invite.invitee = p ∧ invite.eventId = e) ↔ ∃ invite, s.invites.find? id = some invite ∧
        invite.invitee = p ∧ invite.eventId = e := by
    intro id p e
    have hpair := hinvites id
    cases hi' : s'.invites.find? id with
    | none =>
      rw [hi'] at hpair
      cases hi : s.invites.find? id with
      | none => simp
      | some _ => simp [hi] at hpair
    | some invite' =>
      rw [hi'] at hpair
      cases hi : s.invites.find? id with
      | none => simp [hi] at hpair
      | some invite =>
        simp only [hi, Option.map_some, Option.some.injEq, Prod.mk.injEq] at hpair
        simp [hpair]
  refine ⟨fun id invite' hi => ?_, fun e event' he id hmem => ?_, fun p id => ?_, fun p e => ?_⟩
  · obtain ⟨invite, hinv, -, heq⟩ := (hinvite id _ _).mp ⟨invite', hi, rfl, rfl⟩
    obtain ⟨event, hev, hmem⟩ := h.invites id invite hinv
    rw [heq] at hev
    obtain ⟨event', hev', hl⟩ := (hevent _ event.invites).mpr ⟨event, hev, rfl⟩
    exact ⟨event', hev', hl ▸ hmem⟩
  · obtain ⟨event, hev, hl⟩ := (hevent e event'.invites).mp ⟨event', he, rfl⟩
    obtain ⟨invite, hinv⟩ := h.listed e event hev id (hl ▸ hmem)
    obtain ⟨invite', hinv', -⟩ := (hinvite id _ _).mpr ⟨invite, hinv, rfl, rfl⟩
    exact ⟨invite', hinv'⟩
  · rw [hplayerInvites, h.playerInvites]
    constructor
    · rintro ⟨invite, hi, hp⟩
      obtain ⟨invite', hi', hp', -⟩ := (hinvite id p _).mpr ⟨invite, hi, hp, rfl⟩
      exact ⟨invite', hi', hp'⟩
    · rintro ⟨invite, hi, hp⟩
      obtain ⟨invite', hi', hp', -⟩ := (hinvite id p _).mp ⟨invite, hi, hp, rfl⟩
      exact ⟨invite', hi', hp'⟩
  · rw [hplayerEvents, h.playerEvents]
    exact exists_congr fun id => (hinvite id p e).symm

theorem setEvent_new (event : CalendarEvent) (h : Integral s) (hnew : s.events.find? e = none)
    (hinvites : event.invites = ∅) : Integral (s.setEvent e event) := by
  refine ⟨fun id invite hi => ?_, fun e' event' he id hmem => ?_, h.playerInvites, h.playerEvents⟩
  · obtain ⟨event', hev, hmem⟩ := h.invites id invite hi
    refine ⟨event', ?_, hmem⟩
    rw [setEvent, OrdMap.find?_set_ne]
    · exact hev
    · intro heq
      rw [heq, hnew] at hev
      cases hev
  · rw [setEvent, OrdMap.find?_set] at he
    split_ifs at he
    · cases he
      rw [hinvites] at hmem
      cases hmem
    · exact h.listed e' event' he id hmem

theorem setEvent_same (h : Integral s) (hevent : s.events.find? e = some event) :
    Integral (s.setEvent e event) := by
  refine h.same (fun e' => ?_) (fun _ => rfl) rfl rfl
  rw [setEvent, OrdMap.find?_set]
  split_ifs with heq
  · rw [heq, hevent]
  · rfl

theorem addInvite_listed (h : Integral (s.setEvent e event)) (heq : invite.eventId = e)
    (hadd : s.addInvite invite = some s') :
    Integral (s'.setEvent e (event.addInvite invite.inviteId)) := by
  obtain ⟨hzero, hnew, rfl⟩ := addInvite_some hadd
  have hinvite : ∀ {id invite'}, (s.invites.set invite.inviteId invite).find? id = some invite' ↔
      id = invite.inviteId ∧ invite' = invite ∨ s.invites.find? id = some invite' := by
    intro id invite'
    rw [OrdMap.find?_set]
    split_ifs with hid
    · rw [hid, hnew]
      simp [eq_comm]
    · simp [hid]
  refine ⟨fun id invite' hi => ?_, fun e' event' he id hmem => ?_, fun p id => ?_, fun p e' => ?_⟩
  · rcases hinvite.mp hi with ⟨rfl, rfl⟩ | hi
    · refine ⟨event.addInvite invite'.inviteId, ?_, mem_addInvite_invites.mpr (.inl ⟨rfl, hzero⟩)⟩
      rw [setEvent, heq, OrdMap.find?_set_same]
    · obtain ⟨event₀, hev, hmem⟩ := h.invites id invite' hi
      rw [setEvent, OrdMap.find?_set] at hev
      rw [setEvent, OrdMap.find?_set]
      split_ifs at hev ⊢
      · cases hev
        exact ⟨_, rfl, mem_addInvite_invites.mpr (.inr hmem)⟩
      · exact ⟨event₀, hev, hmem⟩
  · have hold : (∃ invite', s.invites.find? id = some invite') →
        ∃ invite', (s.invites.set invite.inviteId invite).find? id = some invite' :=
      fun h => h.imp fun _ hi => hinvite.mpr (.inr hi)
    rw [setEvent, OrdMap.find?_set] at he
    split_ifs at he
    · cases he
      rcases mem_addInvite_invites.mp hmem with ⟨rfl, -⟩ | hmem
      · exact ⟨invite, hinvite.mpr (.inl ⟨rfl, rfl⟩)⟩
      · exact hold (h.listed e event OrdMap.find?_set_same id hmem)
    · refine hold (h.listed e' event' ?_ id hmem)
      rw [setEvent, OrdMap.find?_set_ne (by assumption)]
      exact he
  · have hstored : (∃ invite', s.invites.find? id = some invite' ∧ invite'.invitee = p) ↔
        id ∈ idsOf s.playerInvites p := (h.playerInvites p id).symm
    simp only [setEvent, idsOf_set, hinvite]
    split_ifs with hp
    · rw [Finset.mem_insert, ← hp, ← hstored]
      constructor
      · rintro (hid | ⟨invite', hi, hpi⟩)
        · exact ⟨invite, .inl ⟨hid, rfl⟩, hp.symm⟩
        · exact ⟨invite', .inr hi, hpi⟩
      · rintro ⟨invite', ⟨hid, rfl⟩ | hi, hpi⟩
        · exact .inl hid
        · exact .inr ⟨invite', hi, hpi⟩
    · rw [← hstored]
      constructor
      · rintro ⟨invite', hi, hpi⟩
        exact ⟨invite', .inr hi, hpi⟩
      · rintro ⟨invite', ⟨hid, rfl⟩ | hi, hpi⟩
        · exact absurd hpi.symm hp
        · exact ⟨invite', hi, hpi⟩
  · have hstored : (∃ id invite', s.invites.find? id = some invite' ∧ invite'.invitee = p ∧
        invite'.eventId = e') ↔ e' ∈ idsOf s.playerEvents p := (h.playerEvents p e').symm
    simp only [setEvent, idsOf_set, hinvite]
    split_ifs with hp
    · rw [Finset.mem_insert, ← hp, ← hstored]
      constructor
      · rintro (he' | ⟨id, invite', hi, hpi⟩)
        · exact ⟨invite.inviteId, invite, .inl ⟨rfl, rfl⟩, hp.symm, he'.symm⟩
        · exact ⟨id, invite', .inr hi, hpi⟩
      · rintro ⟨id, invite', ⟨-, rfl⟩ | hi, hpi⟩
        · exact .inl hpi.2.symm
        · exact .inr ⟨id, invite', hi, hpi⟩
    · rw [← hstored]
      constructor
      · rintro ⟨id, invite', hi, hpi⟩
        exact ⟨id, invite', .inr hi, hpi⟩
      · rintro ⟨id, invite', ⟨-, rfl⟩ | hi, hpi⟩
        · exact absurd hpi.1.symm hp
        · exact ⟨id, invite', hi, hpi⟩

theorem copyInvite (hnum : Numbered (s.setEvent event.eventId event))
    (h : Integral (s.setEvent event.eventId event)) :
    Integral ((CalendarMgr.copyInvite p (s, event) id).1.setEvent
      (CalendarMgr.copyInvite p (s, event) id).2.eventId
      (CalendarMgr.copyInvite p (s, event) id).2) := by
  unfold CalendarMgr.copyInvite
  cases s.invites.find? id with
  | none => exact h
  | some invite =>
    obtain ⟨s', hs'⟩ := addInvite_isSome (s := { s with inviteNum := s.inviteNum + 1 })
      { inviteId := s.inviteNum + 1, eventId := event.eventId, senderGUID := p,
        invitee := invite.invitee, status := invite.status, statusTime := invite.statusTime,
        text := invite.text, rank := invite.rank } (Nat.succ_ne_zero _)
      (hnum.fresh (Nat.lt_succ_self s.inviteNum)).1
    simp only [hs', addInvite_eventId]
    exact addInvite_listed (s := { s with inviteNum := s.inviteNum + 1 }) h.nums rfl hs'

theorem copyInvites (event : CalendarEvent) (ids : List Nat)
    (hnum : Numbered (s.setEvent event.eventId event))
    (h : Integral (s.setEvent event.eventId event)) :
    Integral ((ids.foldl (CalendarMgr.copyInvite p) (s, event)).1.setEvent
      (ids.foldl (CalendarMgr.copyInvite p) (s, event)).2.eventId
      (ids.foldl (CalendarMgr.copyInvite p) (s, event)).2) := by
  induction ids generalizing s event with
  | nil => exact h
  | cons id ids ih => exact ih _ (hnum.copyInvite id) (h.copyInvite hnum)

theorem copyEvent (hnum : Numbered s) (h : Integral s) : Integral (s.copyEvent action) := by
  cases hcheck : s.checkPermisions action.event.eventId action.player action.inviteId
    CALENDAR_RANK_OWNER with
  | error _ =>
    rw [CalendarMgr.copyEvent, hcheck]
    exact h
  | ok event =>
    obtain ⟨s', event', hfold, -, -, heq⟩ := copyEvent_eq action hnum hcheck
    rw [heq]
    let copy := copiedEvent event (s.eventNum + 1) action.event.eventTime
    have hnew : Integral ({ s with eventNum := s.eventNum + 1 }.setEvent (s.eventNum + 1) copy) :=
      (h.nums (n := s.eventNum + 1)).setEvent_new copy
        (hnum.fresh_event (Nat.lt_succ_self s.eventNum)) rfl
    have hnumNew : Numbered ({ s with eventNum := s.eventNum + 1 }.setEvent (s.eventNum + 1) copy) :=
      (hnum.eventNum_le (Nat.le_succ _) le_rfl).setEvent_new copy rfl rfl
    have hcopied := copyInvites (p := action.player) copy (ascending event.invites) hnumNew hnew
    rw [hfold] at hcopied
    exact hcopied

theorem modifyEvent (h : Integral s) : Integral (s.modifyEvent action) := by
  unfold CalendarMgr.modifyEvent
  cases hcheck : s.checkPermisions action.event.eventId action.player action.inviteId
    CALENDAR_RANK_MODERATOR with
  | error _ => exact h
  | ok event =>
    obtain ⟨hevent, -⟩ := checkPermisions_ok hcheck
    refine h.same (fun e => ?_) (fun _ => rfl) rfl rfl
    simp only [setEvent, OrdMap.find?_set]
    split_ifs with heq
    · rw [heq, hevent]
      rfl
    · rfl

theorem modifyEventInvite {minRank : Nat} (h : Integral s) :
    Integral (s.modifyEventInvite action minRank) := by
  unfold CalendarMgr.modifyEventInvite
  simp only
  split
  · rename_i event invite hevent hinvite
    split_ifs
    · exact h
    · refine h.same (fun _ => rfl) (fun id => ?_) rfl rfl
      rw [OrdMap.find?_set]
      split_ifs with heq
      · rw [heq, hinvite]
        rfl
      · rfl
  · exact h

theorem addEventInvite (h : Integral s) : Integral (s.addEventInvite action) := by
  unfold CalendarMgr.addEventInvite
  split
  · exact h
  · rename_i event hcheck
    obtain ⟨hevent, -⟩ := checkPermisions_ok hcheck
    split
    · exact h
    · rename_i s' hs'
      exact (h.setEvent_same hevent).addInvite_listed rfl hs'

theorem handleCalendarAddEvent {guid guildId inviteCount invitee status rank : Nat}
    {data : CalendarEventData} (hnum : Numbered s) (h : Integral s) : Integral
      (s.handleCalendarAddEvent guid guildId data inviteCount invitee status rank) := by
  have hnew : Integral ({ s with eventNum := s.eventNum + 1 }.setEvent (s.eventNum + 1)
      (newEvent guid guildId data (s.eventNum + 1))) :=
    (h.nums (n := s.eventNum + 1)).setEvent_new (newEvent guid guildId data (s.eventNum + 1))
      (hnum.fresh_event (Nat.lt_succ_self s.eventNum)) rfl
  rcases handleCalendarAddEvent_cases hnum with heq | heq | ⟨s', hs', heq⟩
  · rw [heq]
    exact h
  · rw [heq]
    exact hnew
  · rw [heq]
    exact addInvite_listed (s := { s with eventNum := s.eventNum + 1, inviteNum := s.inviteNum + 1 })
      hnew.nums rfl hs'

end Integral

/-- A sign-up passes the test of `CALENDAR_ACTION_SIGNUP_TO_EVENT`. -/
def CanSignUp (s : CalendarMgr) (guildId eventId : Nat) : Prop :=
  ∃ event, s.events.find? eventId = some event ∧ event.flags &&& CALENDAR_FLAG_GUILD_ONLY ≠ 0 ∧
    event.guildId ≠ 0 ∧ event.guildId = guildId

/-- The removal of an invite passes the tests: not those of the creator of the event. -/
def CanRemoveInvite (s : CalendarMgr) (guid inviteId own eventId : Nat) : Prop :=
  ∃ event invite, s.checkPermisions eventId guid own CALENDAR_RANK_MODERATOR = .ok event ∧
    s.invites.find? inviteId = some invite ∧ event.creatorGUID ≠ invite.invitee

def Harmless (s : CalendarMgr) : CalendarRequest → Prop
  | .removeEvent guid eventId inviteId _ =>
    ∀ event, s.checkPermisions eventId guid inviteId CALENDAR_RANK_OWNER ≠ .ok event
  | .eventSignup _ guildId eventId _ _ => ¬ CanSignUp s guildId eventId
  | .eventRemoveInvite guid _ inviteId own eventId => ¬ CanRemoveInvite s guid inviteId own eventId
  | _ => True

theorem Integral.step {request : CalendarRequest} (hnum : Numbered s) (h : Integral s)
    (hok : Harmless s request) : Integral (s.step request) := by
  cases request with
  | addEvent guid guildId data inviteCount invitee status rank => exact h.handleCalendarAddEvent hnum
  | updateEvent guid eventId inviteId data => exact h.modifyEvent
  | removeEvent guid eventId inviteId flags =>
    simp only [CalendarMgr.step, addAction, removeEventAction]
    cases hcheck : s.checkPermisions eventId guid inviteId CALENDAR_RANK_OWNER with
    | error _ => exact h
    | ok event => exact absurd hcheck (hok event)
  | copyEvent guid eventId inviteId time => exact h.copyEvent hnum
  | eventInvite guid team eventId inviteId named status rank =>
    simp only [CalendarMgr.step, CalendarMgr.handleCalendarEventInvite]
    split_ifs
    · exact h
    · exact h
    · exact h.nums.addEventInvite
  | eventSignup guid guildId eventId status now =>
    simp only [CalendarMgr.step, addAction, signupToEvent]
    cases hevent : s.events.find? eventId with
    | none => exact h
    | some event =>
      simp only
      rw [if_pos]
      · exact h
      · by_contra hgo
        rw [not_or, not_or, not_not] at hgo
        exact hok ⟨event, hevent, hgo⟩
  | eventRsvp guid eventId inviteId status => exact h.modifyEventInvite
  | eventRemoveInvite guid invitee inviteId own eventId =>
    simp only [CalendarMgr.step, addAction, removeEventInvite]
    cases hcheck : s.checkPermisions eventId guid own CALENDAR_RANK_MODERATOR with
    | error _ => exact h
    | ok event =>
      cases hinvite : s.invites.find? inviteId with
      | none => exact h
      | some invite =>
        simp only
        rw [if_pos]
        · exact h
        · by_contra hgo
          exact hok ⟨event, invite, hcheck, hinvite, hgo⟩
  | eventStatus guid invitee eventId inviteId owninviteId status => exact h.modifyEventInvite
  | eventModeratorStatus guid invitee eventId inviteId owninviteId status =>
    exact h.modifyEventInvite

/-- In every run in which no sign-up and no removal gets through, the maps agree. -/
theorem integral_run {requests : List CalendarRequest}
    (h : Run CalendarMgr.step Harmless {} requests s) : Integral s :=
  (h.invariant (I := fun s => Numbered s ∧ Integral s)
    (fun _ _ hi hok => ⟨hi.1.step, hi.2.step hi.1 hok⟩) ⟨numbered_empty, integral_empty⟩).2

/-- An event, a second invite, a copy of both, and an answer. -/
theorem integral_run_copy :
    let s := [CalendarRequest.addEvent 1 0 {} 1 1 0 CALENDAR_RANK_OWNER,
      .eventInvite 1 0 1 1 (some (2, 0)) 0 0, .copyEvent 1 1 1 7, .eventRsvp 2 1 2 1].foldl
        CalendarMgr.step {}
    s.invites.size = 4 ∧ Integral s :=
  ⟨by decide +kernel, integral_run (Admitted.run ⟨trivial, trivial, trivial, trivial, trivial⟩)⟩

/-- The player of an event that was removed is still listed for it. -/
theorem integral_removeEvent : ¬ ∀ requests : List CalendarRequest,
    Integral (requests.foldl CalendarMgr.step {}) := by
  intro hall
  let s := [CalendarRequest.addEvent 1 0 {} 1 1 0 CALENDAR_RANK_OWNER,
    .removeEvent 1 1 1 0].foldl CalendarMgr.step {}
  have hs : Integral s := hall _
  have hlisted : 1 ∈ idsOf s.playerEvents 1 ∧ s.invites.entries = [] := by decide +kernel
  obtain ⟨id, invite, hinvite, -⟩ := (hs.playerEvents 1 1).mp hlisted.1
  have hmem := OrdMap.find?_eq_some.mp hinvite
  rw [hlisted.2] at hmem
  cases hmem

end CalendarMgr

end SkyfireBG
