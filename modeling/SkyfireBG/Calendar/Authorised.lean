import SkyfireBG.Calendar.Integral

/-!
# SkyfireBG.Calendar.Authorised

Who may change what in the calendar.

* `HoldsRank`       — a player has an invite of a rank in an event.
* `Authorised`      — a request changed only what its player may change.
* `authorised_iff`  — for every request in every reachable state: when that is so.
-/

namespace SkyfireBG

namespace CalendarRequest

def guid : CalendarRequest → Nat
  | addEvent guid .. | updateEvent guid .. | removeEvent guid .. | copyEvent guid ..
  | eventInvite guid .. | eventSignup guid .. | eventRsvp guid .. | eventRemoveInvite guid ..
  | eventStatus guid .. | eventModeratorStatus guid .. => guid

def named : CalendarRequest → Option Nat
  | addEvent .. => none
  | updateEvent _ eventId _ _ | removeEvent _ eventId _ _ | copyEvent _ eventId _ _
  | eventInvite _ _ eventId _ _ _ _ | eventSignup _ _ eventId _ _ | eventRsvp _ eventId _ _
  | eventRemoveInvite _ _ _ _ eventId | eventStatus _ _ eventId _ _ _
  | eventModeratorStatus _ _ eventId _ _ _ => some eventId

def minRank : CalendarRequest → Nat
  | removeEvent .. | copyEvent .. | eventModeratorStatus .. => CALENDAR_RANK_OWNER
  | _ => CALENDAR_RANK_MODERATOR

end CalendarRequest

namespace CalendarMgr

variable {s s' : CalendarMgr} {request : CalendarRequest} {event : CalendarEvent}
variable {invite : CalendarInvite} {e id own p rank : Nat}

def HoldsRank (s : CalendarMgr) (p e rank : Nat) : Prop :=
  ∃ event id invite, s.events.find? e = some event ∧ id ∈ event.invites ∧
    s.invites.find? id = some invite ∧ invite.eventId = e ∧ invite.invitee = p ∧
      rank ≤ invite.rank

structure Authorised (s : CalendarMgr) (request : CalendarRequest) (s' : CalendarMgr) : Prop where
  events : ∀ e event, s.events.find? e = some event → s'.events.find? e ≠ some event →
    request.named = some e ∧ HoldsRank s request.guid e request.minRank
  /-- An invite that is removed or changed is to the named event, and a player without the rank may
  only change his own. -/
  invites : ∀ id invite, s.invites.find? id = some invite → s'.invites.find? id ≠ some invite →
    request.named = some invite.eventId ∧
      (HoldsRank s request.guid invite.eventId request.minRank ∨
        invite.invitee = request.guid ∧ s'.invites.find? id ≠ none)
  signup : ∀ guid guildId eventId status now, request = .eventSignup guid guildId eventId status now →
    (∃ id invite, s.invites.find? id = none ∧ s'.invites.find? id = some invite) →
      ∃ event, s.events.find? eventId = some event ∧ event.guildId ≠ 0 ∧ event.guildId = guildId

/-- The status of an invite is changed by the player who was invited, or by one with the rank. -/
def StatusAllowed (s : CalendarMgr) (guid eventId inviteId status rank : Nat) : Prop :=
  ∀ event invite, s.events.find? eventId = some event → s.invites.find? inviteId = some invite →
    inviteId ∈ event.invites → invite.status ≠ status →
      invite.invitee = guid ∨ HoldsRank s guid eventId rank

def Proper (s : CalendarMgr) : CalendarRequest → Prop
  | .eventRsvp guid eventId inviteId status =>
    StatusAllowed s guid eventId inviteId status CALENDAR_RANK_MODERATOR
  | .eventStatus guid _ eventId inviteId own status => own = inviteId →
    StatusAllowed s guid eventId inviteId status CALENDAR_RANK_MODERATOR
  | .eventModeratorStatus guid _ eventId inviteId own status => own = inviteId →
    StatusAllowed s guid eventId inviteId status CALENDAR_RANK_OWNER
  | .eventRemoveInvite guid _ inviteId own eventId => CanRemoveInvite s guid inviteId own eventId →
    ∀ invite, s.invites.find? inviteId = some invite → invite.eventId = eventId
  | _ => True

/-! ## Lemmas -/

theorem holdsRank_of_check (hnum : Numbered s)
    (h : s.checkPermisions e p own rank = .ok event) : HoldsRank s p e rank := by
  obtain ⟨hevent, invite, hinvite, hmem, hof, hp, hrank⟩ := checkPermisions_ok h
  exact ⟨event, own, invite, hevent, hmem, hinvite, hof.trans (hnum.events e event hevent).2, hp,
    hrank⟩

theorem addInvite_keeps (h : s.addInvite invite = some s') :
    s'.events = s.events ∧ ∀ id i, s.invites.find? id = some i → s'.invites.find? id = some i := by
  obtain ⟨-, hnew, rfl⟩ := addInvite_some h
  refine ⟨rfl, fun id i hi => ?_⟩
  rw [OrdMap.find?_set_ne]
  · exact hi
  · rintro rfl
    rw [hnew] at hi
    cases hi

theorem Authorised.of_keeps (hevents : ∀ e event, s.events.find? e = some event →
      s'.events.find? e = some event)
    (hinvites : ∀ id i, s.invites.find? id = some i → s'.invites.find? id = some i)
    (hsignup : ∀ guid guildId eventId status now,
      request ≠ .eventSignup guid guildId eventId status now) : Authorised s request s' where
  events := fun e event h hne => absurd (hevents e event h) hne
  invites := fun id i h hne => absurd (hinvites id i h) hne
  signup := fun guid guildId eventId status now h => absurd h (hsignup guid guildId eventId status now)

theorem Authorised.refl (s : CalendarMgr) : Authorised s request s where
  events := fun _ _ h hne => absurd h hne
  invites := fun _ _ h hne => absurd h hne
  signup := by
    rintro _ _ _ _ _ _ ⟨id, invite, hnone, hsome⟩
    rw [hnone] at hsome
    cases hsome

theorem copyInvites_keeps (p : Nat) (s : CalendarMgr) (event : CalendarEvent) (ids : List Nat) :
    ∀ id i, s.invites.find? id = some i →
      (ids.foldl (copyInvite p) (s, event)).1.invites.find? id = some i := by
  induction ids generalizing s event with
  | nil => exact fun _ _ h => h
  | cons id₀ ids ih =>
    intro id i hi
    refine ih (copyInvite p (s, event) id₀).1 _ id i ?_
    unfold copyInvite
    cases s.invites.find? id₀ with
    | none => exact hi
    | some invite =>
      simp only
      split
      · exact hi
      · rename_i s' hs'
        exact (addInvite_keeps hs').2 id i hi

theorem modifyEventInvite_cases (rank : Nat) (action : CalendarAction) (hnum : Numbered s) :
    s.modifyEventInvite action rank = s ∨
    ∃ event invite, s.events.find? action.invite.eventId = some event ∧
      s.invites.find? action.invite.inviteId = some invite ∧
      action.invite.inviteId ∈ event.invites ∧
      (action.inviteId ≠ action.invite.inviteId →
        HoldsRank s action.player action.invite.eventId rank) ∧
      s.modifyEventInvite action rank = { s with
        invites := s.invites.set action.invite.inviteId
          { invite with status := action.invite.status } } := by
  by_cases hown : action.inviteId ≠ action.invite.inviteId
  · cases hcheck : s.checkPermisions action.invite.eventId action.player action.inviteId rank with
    | error err => exact .inl (by simp [modifyEventInvite, hown, hcheck, Except.toOption])
    | ok event =>
      cases hinvite : s.invites.find? action.invite.inviteId with
      | none => exact .inl (by simp [modifyEventInvite, hinvite])
      | some invite =>
        by_cases hmem : action.invite.inviteId ∈ event.invites
        · refine .inr ⟨event, invite, (checkPermisions_ok hcheck).1, rfl, hmem,
            fun _ => holdsRank_of_check hnum hcheck, ?_⟩
          simp [modifyEventInvite, hown, hcheck, Except.toOption, hinvite, CalendarEvent.hasInvite,
            hmem]
        · exact .inl (by simp [modifyEventInvite, hown, hcheck, Except.toOption, hinvite,
            CalendarEvent.hasInvite, hmem])
  · cases hevent : s.events.find? action.invite.eventId with
    | none => exact .inl (by simp [modifyEventInvite, hown, hevent])
    | some event =>
      cases hinvite : s.invites.find? action.invite.inviteId with
      | none => exact .inl (by simp [modifyEventInvite, hinvite])
      | some invite =>
        by_cases hmem : action.invite.inviteId ∈ event.invites
        · refine .inr ⟨event, invite, rfl, rfl, hmem, fun h => absurd h hown, ?_⟩
          simp [modifyEventInvite, hown, hevent, hinvite, CalendarEvent.hasInvite, hmem]
        · exact .inl (by simp [modifyEventInvite, hown, hevent, hinvite, CalendarEvent.hasInvite,
            hmem])

theorem modifyEventInvite_own {action : CalendarAction}
    (hown : action.inviteId = action.invite.inviteId)
    (hevent : s.events.find? action.invite.eventId = some event)
    (hinvite : s.invites.find? action.invite.inviteId = some invite)
    (hmem : action.invite.inviteId ∈ event.invites) :
    s.modifyEventInvite action rank = { s with
      invites := s.invites.set action.invite.inviteId
        { invite with status := action.invite.status } } := by
  simp [modifyEventInvite, hown, hevent, hinvite, CalendarEvent.hasInvite, hmem]

theorem modifyEventInvite_iff {action : CalendarAction} (hnum : Numbered s)
    (hguid : request.guid = action.player) (hnamed : request.named = some action.invite.eventId)
    (hrank : request.minRank = rank) (hsignup : ∀ guid guildId eventId status now,
      request ≠ .eventSignup guid guildId eventId status now) :
    Authorised s request (s.modifyEventInvite action rank) ↔
      (action.inviteId = action.invite.inviteId → StatusAllowed s action.player
        action.invite.eventId action.invite.inviteId action.invite.status rank) := by
  constructor
  · intro h hown event invite hevent hinvite hmem hstatus
    have hof := (hnum.listed _ event hevent _ hmem).2 invite hinvite
    rw [modifyEventInvite_own hown hevent hinvite hmem] at h
    obtain ⟨-, hor⟩ := h.invites _ invite hinvite (by
      rw [OrdMap.find?_set_same]
      intro heq
      rw [← Option.some.inj heq] at hstatus
      exact hstatus rfl)
    rw [hof, hguid, hrank] at hor
    exact hor.symm.imp And.left (fun h => h)
  · intro h
    rcases modifyEventInvite_cases rank action hnum with
      heq | ⟨event, invite, hevent, hinvite, hmem, hholds, heq⟩
    · rw [heq]
      exact .refl s
    · rw [heq]
      refine ⟨fun _ _ h hne => absurd h hne, fun id i hi hne => ?_,
        fun guid guildId eventId status now h => absurd h (hsignup guid guildId eventId status now)⟩
      have hid : id = action.invite.inviteId := by
        by_contra hid
        rw [OrdMap.find?_set_ne hid] at hne
        exact hne hi
      subst hid
      rw [hinvite] at hi
      cases hi
      have hof := (hnum.listed _ event hevent _ hmem).2 invite hinvite
      rw [OrdMap.find?_set_same] at hne
      refine ⟨by rw [hnamed, hof], ?_⟩
      rw [hof, hguid, hrank]
      by_cases hown : action.inviteId = action.invite.inviteId
      · have hstatus : invite.status ≠ action.invite.status := by
          rintro hstatus
          rw [← hstatus] at hne
          exact hne rfl
        rcases h hown event invite hevent hinvite hmem hstatus with hinvitee | hholds
        · refine .inr ⟨hinvitee, ?_⟩
          rw [OrdMap.find?_set_same]
          exact Option.some_ne_none _
        · exact .inl hholds
      · exact .inl (hholds hown)

theorem removeInvite_iff {guid invitee inviteId eventId : Nat} (hnum : Numbered s) :
    Authorised s (.eventRemoveInvite guid invitee inviteId own eventId)
      (s.step (.eventRemoveInvite guid invitee inviteId own eventId)) ↔
        Proper s (.eventRemoveInvite guid invitee inviteId own eventId) := by
  simp only [step, addAction, removeEventInvite, Proper]
  cases hcheck : s.checkPermisions eventId guid own CALENDAR_RANK_MODERATOR with
  | error _ =>
    refine ⟨fun _ hcan => ?_, fun _ => .refl s⟩
    obtain ⟨event, -, hok, -⟩ := hcan
    rw [hcheck] at hok
    cases hok
  | ok event =>
    cases hinvite : s.invites.find? inviteId with
    | none => exact ⟨fun _ _ _ h => (by cases h), fun _ => .refl s⟩
    | some invite =>
      simp only
      split_ifs with hcreator
      · refine ⟨fun _ hcan => ?_, fun _ => .refl s⟩
        obtain ⟨event', invite', hok, hi, hne⟩ := hcan
        rw [hcheck] at hok
        rw [hinvite] at hi
        cases hok
        cases hi
        exact absurd hcreator hne
      · have hcan : CanRemoveInvite s guid inviteId own eventId :=
          ⟨event, invite, hcheck, hinvite, hcreator⟩
        constructor
        · intro h _ invite' hi
          cases hi
          have hnamed := (h.invites inviteId invite hinvite (by simp [removeInvite_invites])).1
          exact (Option.some.inj hnamed).symm
        · intro h
          refine ⟨fun e event' he hne => ?_, fun id i hi hne => ?_, fun _ _ _ _ _ h => by cases h⟩
          · rw [removeInvite_events] at hne
            exact absurd he hne
          · rw [removeInvite_invites] at hne
            split_ifs at hne with hid
            · rw [hid, hinvite] at hi
              cases hi
              rw [h hcan invite rfl]
              exact ⟨rfl, .inl (holdsRank_of_check hnum hcheck)⟩
            · exact absurd hi hne

theorem updateEvent_authorised {guid eventId inviteId : Nat} {data : CalendarEventData}
    (hnum : Numbered s) : Authorised s (.updateEvent guid eventId inviteId data)
      (s.step (.updateEvent guid eventId inviteId data)) := by
  simp only [step, addAction, modifyEvent, CalendarEventData.event]
  cases hcheck : s.checkPermisions eventId guid inviteId CALENDAR_RANK_MODERATOR with
  | error _ => exact .refl s
  | ok event =>
    refine ⟨fun e event' he hne => ?_, fun _ _ h hne => absurd h hne, fun _ _ _ _ _ h => by cases h⟩
    by_cases heq : e = eventId
    · rw [heq]
      exact ⟨rfl, holdsRank_of_check hnum hcheck⟩
    · simp only [setEvent, OrdMap.find?_set_ne heq] at hne
      exact absurd he hne

theorem removeEvent_authorised {guid eventId inviteId flags : Nat} (hnum : Numbered s) :
    Authorised s (.removeEvent guid eventId inviteId flags)
      (s.step (.removeEvent guid eventId inviteId flags)) := by
  simp only [step, addAction, removeEventAction]
  cases hcheck : s.checkPermisions eventId guid inviteId CALENDAR_RANK_OWNER with
  | error _ => exact .refl s
  | ok event =>
    have hholds := holdsRank_of_check hnum hcheck
    obtain ⟨hevent, -⟩ := checkPermisions_ok hcheck
    obtain ⟨hevents, -, -, hinvites⟩ := foldl_removeInvite s (ascending event.invites)
    obtain ⟨hinvites', -, -, hevents'⟩ :=
      removeEvent_spec ((ascending event.invites).foldl removeInvite s) eventId
    refine ⟨fun e event' he hne => ?_, fun id i hi hne => ?_, fun _ _ _ _ _ h => by cases h⟩
    · rw [hevents', hevents] at hne
      split_ifs at hne with heq
      · rw [heq]
        exact ⟨rfl, hholds⟩
      · exact absurd he hne
    · rw [hinvites', hinvites] at hne
      split_ifs at hne with hmem
      · rw [(hnum.listed eventId event hevent id (mem_ascending.mp hmem)).2 i hi]
        exact ⟨rfl, .inl hholds⟩
      · exact absurd hi hne

theorem copyEvent_authorised {guid eventId inviteId time : Nat} (hnum : Numbered s) :
    Authorised s (.copyEvent guid eventId inviteId time)
      (s.step (.copyEvent guid eventId inviteId time)) := by
  simp only [step, addAction]
  cases hcheck : s.checkPermisions eventId guid inviteId CALENDAR_RANK_OWNER with
  | error _ =>
    rw [copyEvent, hcheck]
    exact .refl s
  | ok event =>
    obtain ⟨s', event', hfold, hevents, hid, heq⟩ := copyEvent_eq
      ⟨.CALENDAR_ACTION_COPY_EVENT, guid, inviteId, 0,
        { eventId := eventId, eventTime := time }, {}⟩ hnum hcheck
    rw [heq]
    refine .of_keeps (fun e event₀ he => ?_) (fun id i hi => ?_) (fun _ _ _ _ _ h => by cases h)
    · rw [setEvent, OrdMap.find?_set_ne, hevents]
      · exact he
      · have := (hnum.events e event₀ he).1
        omega
    · have hkeeps := copyInvites_keeps guid { s with eventNum := s.eventNum + 1 }
        (copiedEvent event (s.eventNum + 1) time) (ascending event.invites) id i hi
      rw [hfold] at hkeeps
      exact hkeeps

theorem eventInvite_authorised {guid team eventId inviteId status rank : Nat}
    {named : Option (Nat × Nat)} (hnum : Numbered s) :
    Authorised s (.eventInvite guid team eventId inviteId named status rank)
      (s.step (.eventInvite guid team eventId inviteId named status rank)) := by
  simp only [step, handleCalendarEventInvite]
  split_ifs
  · exact .refl s
  · exact .refl s
  · simp only [addAction, addEventInvite]
    have hnum' := hnum.eventNum_le le_rfl (Nat.le_succ s.inviteNum)
    split
    · exact .of_keeps (fun _ _ h => h) (fun _ _ h => h) (fun _ _ _ _ _ h => by cases h)
    · rename_i event hcheck
      have hholds : HoldsRank { s with inviteNum := s.inviteNum + 1 } guid eventId
          CALENDAR_RANK_MODERATOR := holdsRank_of_check hnum' hcheck
      split
      · exact .of_keeps (fun _ _ h => h) (fun _ _ h => h) (fun _ _ _ _ _ h => by cases h)
      · rename_i s' hs'
        obtain ⟨hevents, hinvites⟩ := addInvite_keeps hs'
        refine ⟨fun e event' he hne => ?_, fun id i hi hne => absurd (hinvites id i hi) hne,
          fun _ _ _ _ _ h => by cases h⟩
        by_cases heq : e = eventId
        · rw [heq]
          exact ⟨rfl, hholds⟩
        · simp only [setEvent, OrdMap.find?_set_ne heq, hevents] at hne
          exact absurd he hne

theorem eventSignup_authorised {guid guildId eventId status now : Nat} :
    Authorised s (.eventSignup guid guildId eventId status now)
      (s.step (.eventSignup guid guildId eventId status now)) := by
  simp only [step, addAction, signupToEvent]
  cases hevent : s.events.find? eventId with
  | none => exact .refl s
  | some event =>
    simp only
    split_ifs with hrefused
    · exact .refl s
    · rw [not_or, not_or, not_not] at hrefused
      have hsignup : ∀ guid' guildId' eventId' status' now',
          CalendarRequest.eventSignup guid guildId eventId status now =
            .eventSignup guid' guildId' eventId' status' now' →
          ∃ event, s.events.find? eventId' = some event ∧ event.guildId ≠ 0 ∧
            event.guildId = guildId' := by
        intro _ _ _ _ _ h
        cases h
        exact ⟨event, hevent, hrefused.2⟩
      cases hadd : { s with inviteNum := s.inviteNum + 1 }.addInvite (s.signupInvite
        ⟨.CALENDAR_ACTION_SIGNUP_TO_EVENT, guid, 0, guildId, { eventId := eventId },
          { status := status }⟩ now) with
      | none =>
        exact ⟨fun _ _ h hne => absurd h hne, fun _ _ h hne => absurd h hne,
          fun _ _ _ _ _ h _ => hsignup _ _ _ _ _ h⟩
      | some s' =>
        obtain ⟨hevents, hinvites⟩ := addInvite_keeps hadd
        simp only [Option.getD_some]
        exact ⟨fun e event' he hne => absurd (by rw [hevents]; exact he) hne,
          fun id i hi hne => absurd (hinvites id i hi) hne, fun _ _ _ _ _ h _ => hsignup _ _ _ _ _ h⟩

theorem addEvent_authorised {guid guildId inviteCount invitee status rank : Nat}
    {data : CalendarEventData} (hnum : Numbered s) :
    Authorised s (.addEvent guid guildId data inviteCount invitee status rank)
      (s.step (.addEvent guid guildId data inviteCount invitee status rank)) := by
  have hnew : ∀ {e event'} (event₀ : CalendarEvent), s.events.find? e = some event' →
      (s.events.set (s.eventNum + 1) event₀).find? e = some event' := by
    intro e event' event₀ he
    rw [OrdMap.find?_set_ne]
    · exact he
    · have := (hnum.events e event' he).1
      omega
  simp only [step]
  rcases handleCalendarAddEvent_cases hnum with heq | heq | ⟨s', hs', heq⟩
  · rw [heq]
    exact .refl s
  · rw [heq]
    exact .of_keeps (fun _ _ he => hnew _ he) (fun _ _ h => h) (fun _ _ _ _ _ h => by cases h)
  · rw [heq]
    obtain ⟨hevents, hinvites⟩ := addInvite_keeps hs'
    refine .of_keeps (fun e event' he => ?_) (fun id i hi => hinvites id i hi)
      (fun _ _ _ _ _ h => by cases h)
    rw [setEvent, hevents]
    exact hnew _ he

/-- In every reachable state, a request does only what its player may do, if and only if a status
that is changed by its own id is that of the player or of an event where he has the rank, and an
invite that is removed is to the named event. -/
theorem authorised_iff {requests : List CalendarRequest}
    (h : Run CalendarMgr.step (fun _ _ => True) {} requests s) (request : CalendarRequest) :
    Authorised s request (s.step request) ↔ Proper s request := by
  have hnum := numbered_run h
  cases request with
  | addEvent guid guildId data inviteCount invitee status rank =>
    exact iff_of_true (addEvent_authorised hnum) trivial
  | updateEvent guid eventId inviteId data =>
    exact iff_of_true (updateEvent_authorised hnum) trivial
  | removeEvent guid eventId inviteId flags =>
    exact iff_of_true (removeEvent_authorised hnum) trivial
  | copyEvent guid eventId inviteId time => exact iff_of_true (copyEvent_authorised hnum) trivial
  | eventInvite guid team eventId inviteId named status rank =>
    exact iff_of_true (eventInvite_authorised hnum) trivial
  | eventSignup guid guildId eventId status now => exact iff_of_true eventSignup_authorised trivial
  | eventRsvp guid eventId inviteId status =>
    have hiff : Authorised s (.eventRsvp guid eventId inviteId status)
        (s.step (.eventRsvp guid eventId inviteId status)) ↔ (inviteId = inviteId →
          StatusAllowed s guid eventId inviteId status CALENDAR_RANK_MODERATOR) :=
      modifyEventInvite_iff hnum rfl rfl rfl (fun _ _ _ _ _ h => by cases h)
    exact hiff.trans ⟨fun h => h rfl, fun h _ => h⟩
  | eventRemoveInvite guid invitee inviteId own eventId => exact removeInvite_iff hnum
  | eventStatus guid invitee eventId inviteId own status =>
    exact modifyEventInvite_iff hnum rfl rfl rfl (fun _ _ _ _ _ h => by cases h)
  | eventModeratorStatus guid invitee eventId inviteId own status =>
    exact modifyEventInvite_iff hnum rfl rfl rfl (fun _ _ _ _ _ h => by cases h)

def sampleRequests : List CalendarRequest :=
  [.addEvent 1 0 {} 1 1 0 CALENDAR_RANK_OWNER, .eventInvite 1 0 1 1 (some (2, 0)) 0 0]

def sampleCalendar : CalendarMgr := sampleRequests.foldl CalendarMgr.step {}

theorem sampleCalendar_invites : (sampleCalendar.invites.find? 2).map CalendarInvite.invitee = some 2 ∧
    (sampleCalendar.invites.find? 2).map CalendarInvite.status = some 0 ∧
    sampleCalendar.invites.entries.all (fun e => e.2.invitee ≠ 3) = true := by
  decide +kernel

/-- Player 2 accepts. -/
theorem authorised_rsvp : Authorised sampleCalendar (.eventRsvp 2 1 2 1)
    (sampleCalendar.step (.eventRsvp 2 1 2 1)) := by
  have hiff : Authorised sampleCalendar (.eventRsvp 2 1 2 1)
      (sampleCalendar.step (.eventRsvp 2 1 2 1)) ↔ Proper sampleCalendar (.eventRsvp 2 1 2 1) :=
    authorised_iff (Run.free sampleRequests) (.eventRsvp 2 1 2 1)
  refine hiff.mpr ?_
  intro event invite _ hinvite _ _
  have hinvitee := sampleCalendar_invites.1
  rw [hinvite] at hinvitee
  exact .inl (Option.some.inj hinvitee)

/-- Player 3, who was not invited, accepts for player 2. -/
theorem authorised_stranger : ¬ ∀ (requests : List CalendarRequest) (request : CalendarRequest),
    Authorised (requests.foldl CalendarMgr.step {}) request
      ((requests.foldl CalendarMgr.step {}).step request) := by
  intro hall
  have hauthorised : Authorised sampleCalendar (.eventRsvp 3 1 2 1)
      (sampleCalendar.step (.eventRsvp 3 1 2 1)) := hall sampleRequests _
  obtain ⟨-, hstatus, hothers⟩ := sampleCalendar_invites
  obtain ⟨invite, hinvite, hold⟩ := Option.map_eq_some_iff.mp hstatus
  have hchanged : ((sampleCalendar.step (.eventRsvp 3 1 2 1)).invites.find? 2).map
      CalendarInvite.status = some 1 := by decide +kernel
  have hinvitee : ∀ id invite, sampleCalendar.invites.find? id = some invite →
      invite.invitee ≠ 3 := by
    intro id invite hi
    have hne := List.all_eq_true.mp hothers _ (OrdMap.find?_eq_some.mp hi)
    simpa using hne
  obtain ⟨-, ⟨-, id, invite', -, -, hi, -, hp, -⟩ | ⟨hp, -⟩⟩ :=
    hauthorised.invites 2 invite hinvite (by
      intro heq
      rw [heq, Option.map_some, hold] at hchanged
      cases hchanged)
  · exact hinvitee id invite' hi hp
  · exact hinvitee 2 invite hinvite hp

end CalendarMgr

end SkyfireBG
