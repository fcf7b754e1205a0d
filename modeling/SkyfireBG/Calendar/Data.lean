import SkyfireBG.Lib.Lists
import SkyfireBG.Lib.OrdMap
import SkyfireBG.Lib.Run

/-!
# SkyfireBG.Calendar.Data

Events and invites of the calendar, and the helpers of `CalendarMgr` that change its four maps.
-/

namespace SkyfireBG

def CALENDAR_FLAG_WITHOUT_INVITES : Nat := 0x040
def CALENDAR_FLAG_GUILD_ONLY : Nat := 0x400

def CALENDAR_RANK_PLAYER : Nat := 0
def CALENDAR_RANK_MODERATOR : Nat := 1
def CALENDAR_RANK_OWNER : Nat := 2

def CALENDAR_TYPE_OTHER : Nat := 4

def CALENDAR_STATUS_INVITED : Nat := 0
def CALENDAR_STATUS_ACCEPTED : Nat := 1
def CALENDAR_STATUS_CONFIRMED : Nat := 6
def CALENDAR_STATUS_NO_OWNER : Nat := 7
def CALENDAR_STATUS_8 : Nat := 8

structure CalendarInvite where
  inviteId : Nat := 0
  eventId : Nat := 0
  invitee : Nat := 0
  senderGUID : Nat := 0
  statusTime : Nat := 0
  status : Nat := CALENDAR_STATUS_INVITED
  rank : Nat := CALENDAR_RANK_PLAYER
  text : String := ""
deriving DecidableEq, Repr

structure CalendarEvent where
  eventId : Nat := 0
  creatorGUID : Nat := 0
  guildId : Nat := 0
  type : Nat := CALENDAR_TYPE_OTHER
  dungeonId : Int := -1
  maxInvites : Nat := 0
  eventTime : Nat := 0
  flags : Nat := 0
  repeatable : Bool := false
  timezoneTime : Nat := 0
  title : String := ""
  description : String := ""
  invites : Finset Nat := ∅
deriving DecidableEq

namespace CalendarEvent

variable (event : CalendarEvent) (inviteId : Nat)

def addInvite : CalendarEvent :=
  if inviteId ≠ 0 then { event with invites := insert inviteId event.invites } else event

def hasInvite : Bool := inviteId ∈ event.invites

end CalendarEvent

structure CalendarMgr where
  events : OrdMap Nat CalendarEvent := ∅
  invites : OrdMap Nat CalendarInvite := ∅
  playerInvites : OrdMap Nat (Finset Nat) := ∅
  playerEvents : OrdMap Nat (Finset Nat) := ∅
  eventNum : Nat := 0
  inviteNum : Nat := 0

inductive CalendarError where
  | CALENDAR_ERROR_EVENT_INVALID
  | CALENDAR_ERROR_NO_INVITE
  | CALENDAR_ERROR_NOT_INVITED
  | CALENDAR_ERROR_INTERNAL
  | CALENDAR_ERROR_PERMISSIONS
deriving DecidableEq, Repr

namespace CalendarMgr

variable (s : CalendarMgr)

/-- `_playerInvites[guid]` and `_playerEvents[guid]`. -/
def idsOf (ids : OrdMap Nat (Finset Nat)) (guid : Nat) : Finset Nat := (ids.find? guid).getD ∅

def addPlayerInvite (guid inviteId : Nat) : CalendarMgr :=
  { s with playerInvites := s.playerInvites.set guid (insert inviteId (idsOf s.playerInvites guid)) }

def removePlayerInvite (guid inviteId : Nat) : CalendarMgr :=
  { s with playerInvites :=
      s.playerInvites.set guid ((idsOf s.playerInvites guid).erase inviteId) }

def addPlayerEvent (guid eventId : Nat) : CalendarMgr :=
  { s with playerEvents := s.playerEvents.set guid (insert eventId (idsOf s.playerEvents guid)) }

def removePlayerEvent (guid eventId : Nat) : CalendarMgr :=
  { s with playerEvents := s.playerEvents.set guid ((idsOf s.playerEvents guid).erase eventId) }

/-- `AddEvent`, `none` where it returns false. -/
def addEvent (newEvent : CalendarEvent) : Option CalendarMgr :=
  if (s.events.find? newEvent.eventId).isSome then none
  else some { s with events := s.events.set newEvent.eventId newEvent }

/-- `AddInvite`, `none` where it returns false. -/
def addInvite (newInvite : CalendarInvite) : Option CalendarMgr :=
  if newInvite.inviteId = 0 then none
  else if (s.invites.find? newInvite.inviteId).isSome then none
  else
    let stored := { s with invites := s.invites.set newInvite.inviteId newInvite }
    some ((stored.addPlayerInvite newInvite.invitee newInvite.inviteId).addPlayerEvent
      newInvite.invitee newInvite.eventId)

/-- `RemoveInvite`.  Neither the event nor `_playerEvents` is changed. -/
def removeInvite (inviteId : Nat) : CalendarMgr :=
  match s.invites.find? inviteId with
  | none => s
  | some invite =>
    { s with invites := s.invites.erase inviteId }.removePlayerInvite invite.invitee inviteId

/-- One invite in the loop of `RemoveEvent`. -/
def removeEventOf (eventId : Nat) (s : CalendarMgr) (inviteId : Nat) : CalendarMgr :=
  match s.invites.find? inviteId with
  | none => s
  | some invite => s.removePlayerEvent invite.invitee eventId

/-- `RemoveEvent`, with the list of invites that the erased event had. -/
def removeEvent (eventId : Nat) : CalendarMgr :=
  match s.events.find? eventId with
  | none => s
  | some event => (ascending event.invites).foldl (removeEventOf eventId)
      { s with events := s.events.erase eventId }

def checkPermisions (eventId playerGUID inviteId minRank : Nat) :
    Except CalendarError CalendarEvent :=
  match s.events.find? eventId with
  | none => .error .CALENDAR_ERROR_EVENT_INVALID
  | some event => match s.invites.find? inviteId with
    | none => .error .CALENDAR_ERROR_NO_INVITE
    | some invite =>
      if event.hasInvite inviteId = false then .error .CALENDAR_ERROR_NOT_INVITED
      else if invite.eventId ≠ event.eventId ∨ invite.invitee ≠ playerGUID then
        .error .CALENDAR_ERROR_INTERNAL
      else if invite.rank < minRank then .error .CALENDAR_ERROR_PERMISSIONS
      else .ok event

end CalendarMgr

/-!
## Requests

`CalendarMgr::AddAction` and the handlers that build its actions from the packets of a client.

The ids of events and invites in a request are chosen by the client; new ones come from
`GetFreeEventId` and `GetFreeInviteId`.
-/

inductive CalendarActionData where
  | CALENDAR_ACTION_ADD_EVENT
  | CALENDAR_ACTION_MODIFY_EVENT
  | CALENDAR_ACTION_REMOVE_EVENT
  | CALENDAR_ACTION_COPY_EVENT
  | CALENDAR_ACTION_ADD_EVENT_INVITE
  | CALENDAR_ACTION_MODIFY_EVENT_INVITE
  | CALENDAR_ACTION_MODIFY_MODERATOR_EVENT_INVITE
  | CALENDAR_ACTION_REMOVE_EVENT_INVITE
  | CALENDAR_ACTION_SIGNUP_TO_EVENT
deriving DecidableEq, Repr

/-- `inviteId` is the own invite that the player acts by, `data` the guild of the player. -/
structure CalendarAction where
  action : CalendarActionData
  player : Nat
  inviteId : Nat := 0
  data : Nat := 0
  event : CalendarEvent := {}
  invite : CalendarInvite := {}

namespace CalendarMgr

variable (s : CalendarMgr) (action : CalendarAction)

def setEvent (eventId : Nat) (event : CalendarEvent) : CalendarMgr :=
  { s with events := s.events.set eventId event }

def modifyEvent : CalendarMgr :=
  match s.checkPermisions action.event.eventId action.player action.inviteId
    CALENDAR_RANK_MODERATOR with
  | .error _ => s
  | .ok event => s.setEvent action.event.eventId
      { event with
        eventId := action.event.eventId
        type := action.event.type
        flags := action.event.flags
        eventTime := action.event.eventTime
        timezoneTime := action.event.timezoneTime
        repeatable := action.event.repeatable
        dungeonId := action.event.dungeonId
        title := action.event.title
        description := action.event.description
        maxInvites := action.event.maxInvites }

def copyInvite (player : Nat) (state : CalendarMgr × CalendarEvent) (id : Nat) :
    CalendarMgr × CalendarEvent :=
  match state.1.invites.find? id with
  | none => state
  | some invite =>
    let inviteId := state.1.inviteNum + 1
    let s := { state.1 with inviteNum := inviteId }
    match s.addInvite
      { inviteId := inviteId
        eventId := state.2.eventId
        senderGUID := player
        invitee := invite.invitee
        status := invite.status
        statusTime := invite.statusTime
        text := invite.text
        rank := invite.rank } with
    | none => (s, state.2)
    | some s => (s, state.2.addInvite inviteId)

/-- The event `calendarEvent` under a new id, without invites. -/
def copiedEvent (calendarEvent : CalendarEvent) (eventId eventTime : Nat) : CalendarEvent :=
  { calendarEvent with eventId := eventId, eventTime := eventTime, invites := ∅ }

def copyEvent : CalendarMgr :=
  match s.checkPermisions action.event.eventId action.player action.inviteId
    CALENDAR_RANK_OWNER with
  | .error _ => s
  | .ok event =>
    let eventId := s.eventNum + 1
    let (s, newEvent) := (ascending event.invites).foldl (copyInvite action.player)
      ({ s with eventNum := eventId }, copiedEvent event eventId action.event.eventTime)
    (s.addEvent newEvent).getD s

def removeEventAction : CalendarMgr :=
  match s.checkPermisions action.event.eventId action.player action.inviteId
    CALENDAR_RANK_OWNER with
  | .error _ => s
  | .ok event =>
    ((ascending event.invites).foldl removeInvite s).removeEvent action.event.eventId

def addEventInvite : CalendarMgr :=
  match s.checkPermisions action.invite.eventId action.player action.inviteId
    CALENDAR_RANK_MODERATOR with
  | .error _ => s
  | .ok event => match s.addInvite action.invite with
    | none => s
    | some s => s.setEvent action.invite.eventId (event.addInvite action.invite.inviteId)

def signupInvite (now : Nat) : CalendarInvite where
  inviteId := s.inviteNum + 1
  status :=
    if action.invite.status = CALENDAR_STATUS_INVITED then CALENDAR_STATUS_CONFIRMED
    else if action.invite.status = CALENDAR_STATUS_ACCEPTED then CALENDAR_STATUS_8
    else action.invite.status
  statusTime := now
  eventId := action.event.eventId
  invitee := action.player
  senderGUID := action.player

/-- `CheckPermisions` is called as well, but only tells the player its error. -/
def signupToEvent (now : Nat) : CalendarMgr :=
  match s.events.find? action.event.eventId with
  | none => s
  | some event =>
    if event.flags &&& CALENDAR_FLAG_GUILD_ONLY = 0 ∨ event.guildId = 0 ∨
      event.guildId ≠ action.data then s
    else
      let numbered := { s with inviteNum := s.inviteNum + 1 }
      (numbered.addInvite (s.signupInvite action now)).getD numbered

/-- `CALENDAR_ACTION_MODIFY_EVENT_INVITE` and `CALENDAR_ACTION_MODIFY_MODERATOR_EVENT_INVITE`, which
differ in the rank that is asked for. -/
def modifyEventInvite (minRank : Nat) : CalendarMgr :=
  let eventId := action.invite.eventId
  let inviteId := action.invite.inviteId
  let event := if action.inviteId ≠ inviteId then
      (s.checkPermisions eventId action.player action.inviteId minRank).toOption
    else s.events.find? eventId
  match event, s.invites.find? inviteId with
  | some event, some invite =>
    if event.hasInvite inviteId = false then s
    else { s with invites := s.invites.set inviteId { invite with status := action.invite.status } }
  | _, _ => s

def removeEventInvite : CalendarMgr :=
  match s.checkPermisions action.invite.eventId action.player action.inviteId
    CALENDAR_RANK_MODERATOR with
  | .error _ => s
  | .ok event => match s.invites.find? action.invite.inviteId with
    | none => s
    | some invite =>
      if event.creatorGUID = invite.invitee then s else s.removeInvite action.invite.inviteId

def addAction (now : Nat) : CalendarMgr :=
  match action.action with
  | .CALENDAR_ACTION_ADD_EVENT => match s.addEvent action.event with
    | none => s
    | some s => (s.addInvite action.invite).getD s
  | .CALENDAR_ACTION_MODIFY_EVENT => s.modifyEvent action
  | .CALENDAR_ACTION_COPY_EVENT => s.copyEvent action
  | .CALENDAR_ACTION_REMOVE_EVENT => s.removeEventAction action
  | .CALENDAR_ACTION_ADD_EVENT_INVITE => s.addEventInvite action
  | .CALENDAR_ACTION_SIGNUP_TO_EVENT => s.signupToEvent action now
  | .CALENDAR_ACTION_MODIFY_EVENT_INVITE => s.modifyEventInvite action CALENDAR_RANK_MODERATOR
  | .CALENDAR_ACTION_MODIFY_MODERATOR_EVENT_INVITE => s.modifyEventInvite action CALENDAR_RANK_OWNER
  | .CALENDAR_ACTION_REMOVE_EVENT_INVITE => s.removeEventInvite action

end CalendarMgr

structure CalendarEventData where
  title : String := ""
  description : String := ""
  type : Nat := 0
  repeatable : Bool := false
  maxInvites : Nat := 0
  dungeonId : Int := -1
  eventPackedTime : Nat := 0
  timeZoneTime : Nat := 0
  flags : Nat := 0

def CalendarEventData.event (data : CalendarEventData) (eventId : Nat) : CalendarEvent where
  eventId := eventId
  type := data.type
  flags := data.flags
  eventTime := data.eventPackedTime
  timezoneTime := data.timeZoneTime
  repeatable := data.repeatable
  dungeonId := data.dungeonId
  title := data.title
  description := data.description
  maxInvites := data.maxInvites

/-- The packets, with the player who sends them and what is looked up for them: his guild, and the
guid and the team of the player with the given name. -/
inductive CalendarRequest where
  | addEvent (guid guildId : Nat) (data : CalendarEventData) (inviteCount invitee status rank : Nat)
  | updateEvent (guid eventId inviteId : Nat) (data : CalendarEventData)
  | removeEvent (guid eventId inviteId flags : Nat)
  | copyEvent (guid eventId inviteId time : Nat)
  | eventInvite (guid team eventId inviteId : Nat) (named : Option (Nat × Nat)) (status rank : Nat)
  | eventSignup (guid guildId eventId status now : Nat)
  | eventRsvp (guid eventId inviteId status : Nat)
  | eventRemoveInvite (guid invitee inviteId owninviteId eventId : Nat)
  | eventStatus (guid invitee eventId inviteId owninviteId status : Nat)
  | eventModeratorStatus (guid invitee eventId inviteId owninviteId status : Nat)

namespace CalendarMgr

variable (s : CalendarMgr)

/-- The event of `HandleCalendarAddEvent`, without its invite. -/
def newEvent (guid guildId : Nat) (data : CalendarEventData) (eventId : Nat) : CalendarEvent :=
  { data.event eventId with
    creatorGUID := guid
    guildId := if data.flags &&& CALENDAR_FLAG_GUILD_ONLY ≠ 0 then guildId else 0 }

/-- The action that `HandleCalendarAddEvent` ends with. -/
def addNewEvent (guid guildId : Nat) (data : CalendarEventData)
    (inviteId invitee status rank : Nat) : CalendarMgr :=
  let eventId := s.eventNum + 1
  { s with eventNum := eventId }.addAction
    { action := .CALENDAR_ACTION_ADD_EVENT
      player := guid
      event := (newEvent guid guildId data eventId).addInvite inviteId
      invite :=
        { inviteId := inviteId
          eventId := eventId
          invitee := invitee
          status := status
          rank := rank
          senderGUID := guid } } 0

def handleCalendarAddEvent (guid guildId : Nat) (data : CalendarEventData)
    (inviteCount invitee status rank : Nat) : CalendarMgr :=
  if data.flags &&& CALENDAR_FLAG_WITHOUT_INVITES = 0 then
    if inviteCount ≠ 1 ∨ invitee ≠ guid then s
    else
      let inviteId := s.inviteNum + 1
      { s with inviteNum := inviteId }.addNewEvent guid guildId data inviteId invitee status rank
  else s.addNewEvent guid guildId data 0 0 CALENDAR_STATUS_NO_OWNER CALENDAR_RANK_PLAYER

def handleCalendarEventInvite (guid team eventId inviteId : Nat) (named : Option (Nat × Nat))
    (status rank : Nat) : CalendarMgr :=
  let (invitee, inviteeTeam) := named.getD (0, 0)
  if invitee = 0 then s
  else if team ≠ inviteeTeam then s
  else { s with inviteNum := s.inviteNum + 1 }.addAction
    { action := .CALENDAR_ACTION_ADD_EVENT_INVITE
      player := guid
      inviteId := inviteId
      invite :=
        { eventId := eventId
          inviteId := s.inviteNum + 1
          senderGUID := guid
          invitee := invitee
          rank := rank
          status := status } } 0

def step : CalendarRequest → CalendarMgr
  | .addEvent guid guildId data inviteCount invitee status rank =>
    s.handleCalendarAddEvent guid guildId data inviteCount invitee status rank
  | .updateEvent guid eventId inviteId data => s.addAction
    { action := .CALENDAR_ACTION_MODIFY_EVENT
      player := guid
      inviteId := inviteId
      event := data.event eventId } 0
  | .removeEvent guid eventId inviteId flags => s.addAction
    { action := .CALENDAR_ACTION_REMOVE_EVENT
      player := guid
      inviteId := inviteId
      event := { eventId := eventId, flags := flags } } 0
  | .copyEvent guid eventId inviteId time => s.addAction
    { action := .CALENDAR_ACTION_COPY_EVENT
      player := guid
      inviteId := inviteId
      event := { eventId := eventId, eventTime := time } } 0
  | .eventInvite guid team eventId inviteId named status rank =>
    s.handleCalendarEventInvite guid team eventId inviteId named status rank
  | .eventSignup guid guildId eventId status now => s.addAction
    { action := .CALENDAR_ACTION_SIGNUP_TO_EVENT
      player := guid
      data := guildId
      event := { eventId := eventId }
      invite := { status := status } } now
  | .eventRsvp guid eventId inviteId status => s.addAction
    { action := .CALENDAR_ACTION_MODIFY_EVENT_INVITE
      player := guid
      inviteId := inviteId
      invite := { inviteId := inviteId, eventId := eventId, status := status } } 0
  | .eventRemoveInvite guid invitee inviteId owninviteId eventId => s.addAction
    { action := .CALENDAR_ACTION_REMOVE_EVENT_INVITE
      player := guid
      inviteId := owninviteId
      invite := { inviteId := inviteId, eventId := eventId, invitee := invitee } } 0
  | .eventStatus guid invitee eventId inviteId owninviteId status => s.addAction
    { action := .CALENDAR_ACTION_MODIFY_EVENT_INVITE
      player := guid
      inviteId := owninviteId
      invite :=
        { inviteId := inviteId, eventId := eventId, invitee := invitee, status := status } } 0
  | .eventModeratorStatus guid invitee eventId inviteId owninviteId status => s.addAction
    { action := .CALENDAR_ACTION_MODIFY_MODERATOR_EVENT_INVITE
      player := guid
      inviteId := owninviteId
      invite :=
        { inviteId := inviteId, eventId := eventId, invitee := invitee, status := status } } 0

end CalendarMgr

end SkyfireBG
